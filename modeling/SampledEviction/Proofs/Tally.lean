/-!
# Tallies

What the elements of a list count for, taken together. Keys, bytes and shards are all counted
in this way.

* `tally_perm` — the order does not matter
* `tally_range` — an array is tallied by position
* `tally_modify` — what a change of one element does
-/

namespace SampledEviction

variable {γ : Type} {f g : γ → Nat}

/-- The sum of what the elements count for. -/
def tally (f : γ → Nat) (xs : List γ) : Nat := xs.foldr (fun x rest => f x + rest) 0

@[simp] theorem tally_nil : tally f [] = 0 := rfl

@[simp] theorem tally_cons (x : γ) (xs : List γ) : tally f (x :: xs) = f x + tally f xs := rfl

theorem tally_append (xs ys : List γ) : tally f (xs ++ ys) = tally f xs + tally f ys := by
  induction xs with
  | nil => exact (Nat.zero_add _).symm
  | cons x xs ih => rw [List.cons_append, tally_cons, tally_cons, ih, Nat.add_assoc]

theorem tally_congr {xs : List γ} (h : ∀ x ∈ xs, f x = g x) : tally f xs = tally g xs := by
  induction xs with
  | nil => rfl
  | cons x xs ih =>
    rw [tally_cons, tally_cons, h x List.mem_cons_self,
      ih fun y hy => h y (List.mem_cons_of_mem _ hy)]

/-- The order does not matter. -/
theorem tally_perm {xs ys : List γ} (h : xs.Perm ys) : tally f xs = tally f ys := by
  induction h with
  | nil => rfl
  | cons x _ ih => rw [tally_cons, tally_cons, ih]
  | swap x y _ =>
    rw [tally_cons, tally_cons, tally_cons, tally_cons]
    omega
  | trans _ _ ih ih' => exact ih.trans ih'

theorem le_tally {xs : List γ} {x : γ} (h : x ∈ xs) : f x ≤ tally f xs := by
  induction xs with
  | nil => cases h
  | cons y xs ih =>
    rw [tally_cons]
    rcases List.mem_cons.mp h with rfl | h
    · exact Nat.le_add_right _ _
    · exact Nat.le_trans (ih h) (Nat.le_add_left _ _)

theorem tally_eq_zero_iff {xs : List γ} : tally f xs = 0 ↔ ∀ x ∈ xs, f x = 0 := by
  constructor
  · intro h x hx
    exact Nat.le_zero.mp (h ▸ le_tally hx)
  · intro h
    rw [tally_congr (g := fun _ => 0) h]
    induction xs with
    | nil => rfl
    | cons x xs ih =>
      rw [tally_cons, ih fun y hy => h y (List.mem_cons_of_mem _ hy)]

/-- What counts for something at least counts for as much as there are. -/
theorem length_le_tally {xs : List γ} (h : ∀ x ∈ xs, 0 < f x) : xs.length ≤ tally f xs := by
  induction xs with
  | nil => exact Nat.le_refl _
  | cons x xs ih =>
    have hx := h x List.mem_cons_self
    have hrest := ih fun y hy => h y (List.mem_cons_of_mem _ hy)
    rw [List.length_cons, tally_cons]
    omega

theorem tally_le_tally {xs : List γ} (h : ∀ x ∈ xs, f x ≤ g x) : tally f xs ≤ tally g xs := by
  induction xs with
  | nil => exact Nat.le_refl _
  | cons x xs ih =>
    exact Nat.add_le_add (h x List.mem_cons_self) (ih fun y hy => h y (List.mem_cons_of_mem _ hy))

/-- One element that counts for less is enough. -/
theorem tally_lt_tally {xs : List γ} (h : ∀ x ∈ xs, f x ≤ g x) {x : γ} (hx : x ∈ xs)
    (hlt : f x < g x) : tally f xs < tally g xs := by
  induction xs with
  | nil => cases hx
  | cons y xs ih =>
    have hrest := tally_le_tally fun z hz => h z (List.mem_cons_of_mem _ hz)
    have hy := h y List.mem_cons_self
    rw [tally_cons, tally_cons]
    rcases List.mem_cons.mp hx with rfl | hx
    · omega
    · have hless := ih (fun z hz => h z (List.mem_cons_of_mem _ hz)) hx
      omega

theorem tally_map {δ : Type} (h : δ → γ) (xs : List δ) :
    tally f (xs.map h) = tally (fun x => f (h x)) xs := by
  induction xs with
  | nil => rfl
  | cons x xs ih => rw [List.map_cons, tally_cons, tally_cons, ih]

/-- A list of lists has as many elements as they have. -/
theorem length_flatMap {δ : Type} (h : γ → List δ) (xs : List γ) :
    (xs.flatMap h).length = tally (fun x => (h x).length) xs := by
  induction xs with
  | nil => rfl
  | cons x xs ih => rw [List.flatMap_cons, List.length_append, tally_cons, ih]

/-- An array is tallied by position. -/
theorem tally_range (xs : Array γ) :
    tally (fun i => (xs[i]?.map f).getD 0) (List.range xs.size) = tally f xs.toList := by
  obtain ⟨xs⟩ := xs
  simp only [List.getElem?_toArray, List.size_toArray]
  induction xs with
  | nil => rfl
  | cons x xs ih =>
    rw [List.length_cons, List.range_succ_eq_map, tally_cons, tally_map, tally_cons, ← ih]
    rfl

/-- What a change of one element does. -/
theorem tally_modify {xs : Array γ} {i : Nat} {x : γ} (h : xs[i]? = some x) (c : γ → γ) :
    tally f (xs.modify i c).toList + f x = tally f xs.toList + f (c x) := by
  obtain ⟨xs⟩ := xs
  rw [List.getElem?_toArray] at h
  rw [List.modify_toArray]
  show tally f (xs.modify i c) + f x = tally f xs + f (c x)
  induction xs generalizing i with
  | nil => cases h
  | cons y xs ih =>
    cases i with
    | zero =>
      cases h
      rw [List.modify_zero_cons, tally_cons, tally_cons]
      omega
    | succ i =>
      rw [List.modify_succ_cons, tally_cons, tally_cons]
      have hrest := ih h
      omega

end SampledEviction
