/-!
# Slices by bytes

The part of a text between two places, which are counted in bytes of UTF-8. There is no such
part when a place lies within a character or behind the end.

* `byteCount_toList` — the bytes are those of the string
* `dropBytes?_append`, `takeBytes?_append` — the places between two texts that were joined are
  places of the whole
* `slice?_append` — a text is found where it was put
-/

namespace SampledEviction.Text

/-- The number of bytes of a text. -/
def byteCount : List Char → Nat
  | [] => 0
  | c :: r => c.utf8Size + byteCount r

theorem byteCount_ofList (s : List Char) : byteCount s = (String.ofList s).utf8ByteSize := by
  induction s with
  | nil => rfl
  | cons c r ih =>
    rw [byteCount, ih, ← List.singleton_append, String.ofList_append, String.utf8ByteSize_append,
      ← String.singleton_eq_ofList, String.utf8ByteSize_singleton]

/-- The bytes of a text are those of the string. -/
theorem byteCount_toList (s : String) : byteCount s.toList = s.utf8ByteSize := by
  rw [byteCount_ofList, String.ofList_toList]

/-- A text without its first bytes. -/
def dropBytes? : Nat → List Char → Option (List Char)
  | 0, s => some s
  | _ + 1, [] => none
  | n + 1, c :: r => if c.utf8Size ≤ n + 1 then dropBytes? (n + 1 - c.utf8Size) r else none

/-- The first bytes of a text. -/
def takeBytes? : Nat → List Char → Option (List Char)
  | 0, _ => some []
  | _ + 1, [] => none
  | n + 1, c :: r =>
    if c.utf8Size ≤ n + 1 then (takeBytes? (n + 1 - c.utf8Size) r).map (c :: ·) else none

/-- The part of a text between two places. -/
def slice? (start stop : Nat) (s : List Char) : Option (List Char) :=
  (dropBytes? start s).bind (takeBytes? (stop - start))

/-- What was put in front can be cut off. -/
theorem dropBytes?_append (s t : List Char) : dropBytes? (byteCount s) (s ++ t) = some t := by
  induction s with
  | nil => simp [byteCount, dropBytes?]
  | cons c r ih =>
    obtain ⟨n, hn⟩ : ∃ n, byteCount (c :: r) = n + 1 :=
      Nat.exists_eq_add_one.2 (Nat.add_pos_left c.utf8Size_pos _)
    have hr : n + 1 - c.utf8Size = byteCount r := by rw [← hn, byteCount]; omega
    have hc : c.utf8Size ≤ n + 1 := by rw [← hn, byteCount]; omega
    rw [hn, List.cons_append, dropBytes?, if_pos hc, hr, ih]

/-- What was put behind can be cut off. -/
theorem takeBytes?_append (s t : List Char) : takeBytes? (byteCount s) (s ++ t) = some s := by
  induction s with
  | nil => simp [byteCount, takeBytes?]
  | cons c r ih =>
    obtain ⟨n, hn⟩ : ∃ n, byteCount (c :: r) = n + 1 :=
      Nat.exists_eq_add_one.2 (Nat.add_pos_left c.utf8Size_pos _)
    have hr : n + 1 - c.utf8Size = byteCount r := by rw [← hn, byteCount]; omega
    have hc : c.utf8Size ≤ n + 1 := by rw [← hn, byteCount]; omega
    rw [hn, List.cons_append, takeBytes?, if_pos hc, hr, ih, Option.map_some]

/-- A text is found where it was put. -/
theorem slice?_append (s t u : List Char) :
    slice? (byteCount s) (byteCount s + byteCount t) (s ++ (t ++ u)) = some t := by
  rw [slice?, dropBytes?_append, Option.bind_some, Nat.add_sub_cancel_left, takeBytes?_append]

end SampledEviction.Text
