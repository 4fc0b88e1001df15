import SampledEviction.Proofs.Keyspace.Lawful

/-!
# Keys that have expired

A key that has expired is taken out only when it is read. Until then a new deadline, or none, is
given to it as to any other key, and brings its value back. Nothing else does, however the calls
follow each other, as long as the clock does not go back.

* `Course` — calls under a clock that never goes back
* `Lapsed.answer`, `Course.exists_lapsed` — what a call keeps, and what a course keeps
* `get_eq_revived` — when the value of a key that had expired is found again
* `found_overdue` — a key that had expired, and is found
-/

namespace SampledEviction.Keyspace

/-! ## The course of time -/

namespace Call

/-- The moment at which a call takes place, if it looks at the time. -/
def now? : Call → Option Moment
  | .set _ _ _ now | .get _ now | .expire _ _ now | .timeToLive _ now => some now
  | _ => none

/-- Whether a call gives a key that is there another deadline, or none. -/
def prolongs : Call → Bool
  | .expire _ _ _ | .persist _ => true
  | _ => false

/-- Whether a call decides how long a key that is there lives on. -/
def decides : Call → Bool
  | .expire _ _ _ | .persist _ | .delete _ | .deleteNow _ | .deleteDeferred _ => true
  | _ => false

/-- Whether a key lives at a moment, if this call was the last one to decide how long it does. -/
def spares (m : Moment) : Call → Bool
  | .expire _ ttl now => m.seconds < deadlineAfter now ttl
  | .persist _ => true
  | _ => false

theorem spares_eq_false {c : Call} (h : c.prolongs = false) (m : Moment) : c.spares m = false := by
  cases c with
  | expire _ _ _ | persist _ => cases h
  | _ => rfl

end Call

/-- What happens to a keyspace from some moment on, under a clock that never goes back: calls, the
latest first, with their replies. In between the clock goes on, and what is no call may change
anything but the tables, as draws do, another policy, and the worker of the reclaimer. -/
inductive Course (ks₀ : Keyspace) (m₀ : Moment) : List (Call × Reply) → Keyspace → Moment → Prop where
  | start : Course ks₀ m₀ [] ks₀ m₀
  | call {log : List (Call × Reply)} {ks : Keyspace} {m : Moment} (h : Course ks₀ m₀ log ks m)
    (c : Call) (hnow : ∀ t, c.now? = some t → t = m) :
    Course ks₀ m₀ ((c, (ks.answer c).1) :: log) (ks.answer c).2 m
  | tick {log : List (Call × Reply)} {ks : Keyspace} {m m' : Moment} (h : Course ks₀ m₀ log ks m)
    (hle : m.seconds ≤ m'.seconds) : Course ks₀ m₀ log ks m'
  | aside {log : List (Call × Reply)} {ks ks' : Keyspace} {m : Moment} (h : Course ks₀ m₀ log ks m)
    (hshards : ks'.shards = ks.shards) : Course ks₀ m₀ log ks' m

variable {ks ks' ks₀ : Keyspace} {a : Address} {log : List (Call × Reply)} {m m₀ : Moment}
  {map : PlainMap} {shards : Nat} {value : Bytes} {c : Call} {r : Reply}

theorem Course.call_of_reply (h : Course ks₀ m₀ log ks m) (hnow : ∀ t, c.now? = some t → t = m)
    (hreply : (ks.answer c).1 = r) : Course ks₀ m₀ ((c, r) :: log) (ks.answer c).2 m :=
  hreply ▸ h.call c hnow

/-- Whether a call took effect on how long a key lives. -/
def decided (a : Address) (e : Call × Reply) : Bool :=
  e.1.decides && decide (e.1.target? = some a) && decide (e.2 = .flag true)

theorem decided_flag (hc : c.decides = true) (htarget : c.target? = some a) (yes : Bool) :
    decided a (c, .flag yes) = yes := by
  simp [decided, hc, htarget]

/-- Whether some call took effect on how long a key lives, and the last one that did lets it live
at a moment. -/
def revived (a : Address) (log : List (Call × Reply)) (m : Moment) : Bool :=
  (log.find? (decided a)).any (·.1.spares m)

theorem revived_cons_of_not (h : decided a (c, r) = false) :
    revived a ((c, r) :: log) m = revived a log m := by
  unfold revived
  rw [List.find?_cons_of_neg (Bool.eq_false_iff.mp h)]

theorem revived_cons (h : decided a (c, r) = true) :
    revived a ((c, r) :: log) m = c.spares m := by
  unfold revived
  rw [List.find?_cons_of_pos h, Option.any_some]

/-- What does not prolong a key does not revive it. -/
theorem revived_eq_false
    (h : ∀ e ∈ log, e.1.target? = some a → e.1.prolongs = false) (m : Moment) :
    revived a log m = false := by
  unfold revived
  cases he : log.find? (decided a) with
  | none => rfl
  | some e =>
    obtain ⟨⟨-, htarget⟩, -⟩ : (e.1.decides = true ∧ e.1.target? = some a) ∧ e.2 = .flag true := by
      simpa [decided] using List.find?_some he
    exact Call.spares_eq_false (h e (List.mem_of_find?_eq_some he) htarget) m

/-! ## Items that live -/

namespace Item

/-- Whether an item has not expired. -/
def isAlive (x : Item) (t : Moment) : Bool := !x.expiry.any (· ≤ t.seconds)

theorem isAlive_eq_false {x : Item} {t t' : Moment} (hle : t.seconds ≤ t'.seconds)
    (hdue : x.expiry.any (· ≤ t.seconds) = true) : x.isAlive t' = false := by
  unfold isAlive
  cases hexpiry : x.expiry with
  | none =>
    rw [hexpiry] at hdue
    cases hdue
  | some deadline =>
    simp [hexpiry] at hdue ⊢
    omega

theorem isAlive_expiryAfter (value : Bytes) (now : Moment) (ttl : Duration) (t : Moment) :
    (Item.mk value (some (PlainMap.expiryAfter now ttl))).isAlive t
      = decide (t.seconds < deadlineAfter now ttl) := by
  simp only [isAlive, Option.any_some, expiryAfter_eq, ← decide_not, Nat.not_le]

end Item

/-- A call about another key, or about none, leaves a key as it is. -/
theorem PlainMap.lookup_answer_of_ne (shards : Nat) (hc : c.target? ≠ some a) :
    (map.answer shards c).2.lookup a = map.lookup a := by
  cases htarget : c.target? with
  | some b =>
    refine PlainMap.lookup_answer shards htarget ?_
    rintro rfl
    exact hc htarget
  | none => cases c <;> first | rfl | cases htarget

/-- A read finds the value of a key that lives. -/
theorem Mirrors.fst_get (h : Mirrors shards ks map) (a : Address) (now : Moment) :
    (ks.get a.1 a.2 now).1 = ((map.lookup a).filter (·.isAlive now)).map (·.value) := by
  have hread := h.tidy.read a.1 a.2 now
  rw [h.lookup]
  cases hget : ks.get a.1 a.2 now with
  | mk found ks' =>
    rw [hget] at hread
    cases hread with
    | expired hx hdue _ _ => simp [hx, item, Item.isAlive, hdue]
    | absent hx _ _ => simp [hx]
    | hit hx hlive _ _ => simp [hx, item, Item.isAlive, hlive]

/-! ## What a call keeps -/

/-- A key that had expired: its value is the old one as long as it is there, and from now on it
lives only if it was revived. -/
structure Lapsed (a : Address) (value : Bytes) (log : List (Call × Reply)) (m : Moment)
    (map : PlainMap) : Prop where
  value_eq {x : Item} (hx : map.lookup a = some x) : x.value = value
  any_isAlive (t : Moment) (hle : m.seconds ≤ t.seconds) :
    (map.lookup a).any (·.isAlive t) = revived a log t

/-- A call that decides nothing, and leaves the key as it is. -/
theorem Lapsed.undecided (h : Lapsed a value log m map) (hc : decided a (c, r) = false)
    {map' : PlainMap} (hmap : map'.lookup a = map.lookup a) :
    Lapsed a value ((c, r) :: log) m map' where
  value_eq hx := h.value_eq (hmap ▸ hx)
  any_isAlive t hle := by rw [hmap, revived_cons_of_not hc, h.any_isAlive t hle]

/-- A call that takes a key out. -/
theorem lapsed_erase
    (hc : ∀ t : Moment, m.seconds ≤ t.seconds → revived a ((c, r) :: log) t = false) :
    Lapsed a value ((c, r) :: log) m (map.erase a) where
  value_eq hx := by
    rw [Finmap.lookup_erase] at hx
    cases hx
  any_isAlive t hle := by rw [Finmap.lookup_erase, Option.any_none, hc t hle]

/-- A call that gives a key another deadline, or none. -/
theorem Lapsed.insert (h : Lapsed a value log m map) (hc : decided a (c, r) = true) {x : Item}
    (hx : map.lookup a = some x) {expiry : Option Nat}
    (hspares : ∀ t, (Item.mk x.value expiry).isAlive t = c.spares t) :
    Lapsed a value ((c, r) :: log) m (map.insert a { x with expiry }) where
  value_eq hx' := by
    rw [Finmap.lookup_insert] at hx'
    cases hx'
    exact (h.value_eq hx :)
  any_isAlive t _ := by rw [Finmap.lookup_insert, Option.any_some, revived_cons hc, hspares]

/-- A read takes the key out, unless it was revived. -/
theorem Lapsed.get (h : Lapsed a value log m map) (shards : Nat) :
    Lapsed a value ((.get a m, (map.answer shards (.get a m)).1) :: log) m
      (map.answer shards (.get a m)).2 := by
  cases hx : map.lookup a with
  | none =>
    simp only [PlainMap.answer, hx]
    exact h.undecided rfl rfl
  | some x =>
    simp only [PlainMap.answer, hx]
    split
    · -- what is due now is due from now on, so nothing had revived it
      rename_i hdue
      refine lapsed_erase fun t hle => ?_
      rw [revived_cons_of_not rfl, ← h.any_isAlive t hle, hx, Option.any_some,
        Item.isAlive_eq_false hle hdue]
    · exact h.undecided rfl rfl

/-- A deletion of any kind. -/
theorem Lapsed.delete (h : Lapsed a value log m map)
    (hdecided : ∀ yes, decided a (c, .flag yes) = yes) (hspares : ∀ t, c.spares t = false)
    (hmap : map.answer shards c = (.flag (map.lookup a).isSome, map.erase a)) :
    Lapsed a value ((c, (map.answer shards c).1) :: log) m (map.answer shards c).2 := by
  rw [hmap]
  cases hx : map.lookup a with
  | none => exact h.undecided (hdecided false) ((Finmap.lookup_erase a map).trans hx.symm)
  | some x => exact lapsed_erase fun t _ => (revived_cons (hdecided true)).trans (hspares t)

theorem Lapsed.expire (h : Lapsed a value log m map) (shards : Nat) (ttl : Duration)
    (now : Moment) :
    Lapsed a value ((.expire a ttl now, (map.answer shards (.expire a ttl now)).1) :: log) m
      (map.answer shards (.expire a ttl now)).2 := by
  have hdecided (yes : Bool) := decided_flag (a := a) (c := .expire a ttl now) rfl rfl yes
  cases hx : map.lookup a with
  | none =>
    simp only [PlainMap.answer, hx]
    exact h.undecided (hdecided false) rfl
  | some x =>
    simp only [PlainMap.answer, hx]
    exact h.insert (hdecided true) hx (Item.isAlive_expiryAfter x.value now ttl)

theorem Lapsed.persist (h : Lapsed a value log m map) (shards : Nat) :
    Lapsed a value ((.persist a, (map.answer shards (.persist a)).1) :: log) m
      (map.answer shards (.persist a)).2 := by
  have hdecided (yes : Bool) := decided_flag (a := a) (c := .persist a) rfl rfl yes
  cases hx : map.lookup a with
  | none =>
    simp only [PlainMap.answer, hx]
    exact h.undecided (hdecided false) rfl
  | some x =>
    simp only [PlainMap.answer, hx]
    cases hexpiry : x.expiry with
    | none =>
      -- it has no deadline to lose, and is as it was
      refine h.undecided (hdecided false) ?_
      rw [Finmap.lookup_insert, hx, ← hexpiry]
    | some _ => exact h.insert (hdecided true) hx fun _ => rfl

/-- A key that had expired stays one that had, whatever is called for but to set it. -/
theorem Lapsed.answer (h : Lapsed a value log m map) (shards : Nat)
    (hnow : ∀ t, c.now? = some t → t = m) (hunset : ∀ value ttl now, c ≠ .set a value ttl now) :
    Lapsed a value ((c, (map.answer shards c).1) :: log) m (map.answer shards c).2 := by
  by_cases htarget : c.target? = some a
  · cases c with
    | set b value ttl now =>
      cases htarget
      exact absurd rfl (hunset value ttl now)
    | get b now =>
      cases htarget
      cases hnow now rfl
      exact h.get shards
    | delete b | deleteNow b | deleteDeferred b =>
      cases htarget
      exact h.delete (decided_flag rfl rfl) (fun _ => rfl) rfl
    | expire b ttl now =>
      cases htarget
      exact h.expire shards ttl now
    | persist b =>
      cases htarget
      exact h.persist shards
    | timeToLive b now => exact h.undecided rfl rfl
    | contains b => exact h.undecided rfl rfl
    | shardLength shard => cases htarget
    | length => cases htarget
    | volatileLength => cases htarget
  · have hc : decided a (c, (map.answer shards c).1) = false := by
      simp [decided, htarget]
    exact h.undecided hc (PlainMap.lookup_answer_of_ne shards htarget)

/-! ## What a course keeps -/

/-- A key whose deadline has passed, before anything else happens. -/
theorem Mirrors.lapsed (h : Mirrors shards ks map) {entry : Entry} {deadline : Nat}
    (hentry : ks.entry? a.1 a.2 = some entry) (hdeadline : ks.deadline? a.1 a.2 = some deadline)
    (hle : deadline ≤ m.seconds) : Lapsed a entry.value [] m map := by
  have hlookup : map.lookup a = some ⟨entry.value, some deadline⟩ := by
    rw [h.lookup, record?, hentry, hdeadline]
    rfl
  refine ⟨?_, ?_⟩
  · intro x hx
    cases hlookup.symm.trans hx
    rfl
  · intro t ht
    have hdue : (some deadline).any (· ≤ m.seconds) = true := decide_eq_true hle
    rw [hlookup, Option.any_some, Item.isAlive_eq_false ht hdue]
    rfl

/-- A keyspace mirrors a map all along, in which a key that had expired stays one that had. -/
theorem Course.exists_lapsed (h : Course ks₀ m₀ log ks m) (h₀ : ks₀.Arises) {entry : Entry}
    {deadline : Nat} (hentry : ks₀.entry? a.1 a.2 = some entry)
    (hdeadline : ks₀.deadline? a.1 a.2 = some deadline) (hle : deadline ≤ m₀.seconds)
    (hunset : ∀ e ∈ log, ∀ value ttl now, e.1 ≠ .set a value ttl now) :
    ∃ shards map, Mirrors shards ks map ∧ Lapsed a entry.value log m map := by
  -- along the course: calls keep `Lapsed`, and the clock only leaves less of the future to it
  induction h with
  | start =>
    obtain ⟨shards, map, hmirrors⟩ := h₀.exists_mirror
    exact ⟨shards, map, hmirrors, hmirrors.lapsed hentry hdeadline hle⟩
  | @call log ks m _ c hnow ih =>
    obtain ⟨shards, map, hmirrors, hlapsed⟩ := ih fun e he => hunset e (List.mem_cons_of_mem _ he)
    obtain ⟨r, ks', map', hanswered⟩ := hmirrors.exists_answered c
    have hnext := hlapsed.answer shards hnow (hunset _ List.mem_cons_self)
    rw [hanswered.map] at hnext
    rw [hanswered.keyspace]
    exact ⟨shards, map', hanswered.mirrors, hnext⟩
  | tick _ hlater ih =>
    obtain ⟨shards, map, hmirrors, hlapsed⟩ := ih hunset
    exact ⟨shards, map, hmirrors, hlapsed.value_eq,
      fun t ht => hlapsed.any_isAlive t (Nat.le_trans hlater ht)⟩
  | aside _ hshards ih =>
    obtain ⟨shards, map, hmirrors, hlapsed⟩ := ih hunset
    exact ⟨shards, map, hmirrors.congr hshards, hlapsed⟩

theorem Lapsed.fst_get (h : Lapsed a value log m map) (hmirrors : Mirrors shards ks map) :
    (ks.get a.1 a.2 m).1 = if revived a log m then some value else none := by
  rw [hmirrors.fst_get, ← h.any_isAlive m (Nat.le_refl _)]
  cases hx : map.lookup a with
  | none => rfl
  | some x =>
    rw [Option.any_some, Option.filter_some, ← h.value_eq hx]
    split <;> rfl

/-- A key that has expired has a value, and no read finds it from then on unless the key is set,
or was revived: the last call that took effect on how long it lives gave it another deadline,
which has not come, or none. -/
theorem get_eq_revived (h₀ : ks₀.Arises) {deadline : Nat}
    (hdeadline : ks₀.deadline? a.1 a.2 = some deadline) (hle : deadline ≤ m₀.seconds)
    (h : Course ks₀ m₀ log ks m)
    (hunset : ∀ e ∈ log, ∀ value ttl now, e.1 ≠ .set a value ttl now) :
    (∃ entry, ks₀.entry? a.1 a.2 = some entry ∧
      (ks.get a.1 a.2 m).1 = if revived a log m then some entry.value else none) ∧
    ((∀ e ∈ log, e.1.target? = some a → e.1.prolongs = false) →
      (ks.get a.1 a.2 m).1 = none) := by
  obtain ⟨entry, hentry⟩ : ∃ entry, ks₀.entry? a.1 a.2 = some entry := by
    rw [h₀.tidy.deadline?_eq] at hdeadline
    obtain ⟨x, hx, -⟩ := Option.bind_eq_some_iff.mp hdeadline
    obtain ⟨entry, hentry, -⟩ := exists_entry_of_record hx
    exact ⟨entry, hentry⟩
  obtain ⟨shards, map, hmirrors, hlapsed⟩ := h.exists_lapsed h₀ hentry hdeadline hle hunset
  have hget := hlapsed.fst_get hmirrors
  refine ⟨⟨entry, hentry, hget⟩, fun hprolongs => ?_⟩
  rw [hget, revived_eq_false hprolongs]
  rfl

/-- A keyspace of one key, which expires at second 10. -/
def overdue : Keyspace := vacant.perform (.set 0 ⟨#[107]⟩ ⟨#[118]⟩ (some ⟨10, 0⟩) ⟨0⟩)

theorem arises_overdue : overdue.Arises := (Arises.create create_vacant).perform _

theorem set_overdue : vacant.set 0 ⟨#[107]⟩ ⟨#[118]⟩ (some ⟨10, 0⟩) ⟨0⟩ = .ok overdue := rfl

theorem entry?_overdue :
    overdue.entry? 0 ⟨#[107]⟩ = some ⟨⟨#[118]⟩, vacant.tracker.created ⟨0⟩⟩ :=
  entry?_set (Arises.create create_vacant).tidy set_overdue

theorem deadline?_overdue : overdue.deadline? 0 ⟨#[107]⟩ = some 10 :=
  deadline?_set (Arises.create create_vacant).tidy set_overdue

theorem record?_overdue : overdue.record? 0 ⟨#[107]⟩
    = some ⟨⟨#[118]⟩, vacant.tracker.created ⟨0⟩, some 10⟩ := by
  rw [record?, entry?_overdue, deadline?_overdue]
  rfl

/-- Five more seconds to live, which are not over when the key is read. -/
theorem course_expire : Course overdue ⟨10⟩ [(.expire (0, ⟨#[107]⟩) ⟨5, 0⟩ ⟨10⟩, .flag true)]
    (overdue.expire 0 ⟨#[107]⟩ ⟨5, 0⟩ ⟨10⟩).2 ⟨14⟩ := by
  have hfound : (overdue.expire 0 ⟨#[107]⟩ ⟨5, 0⟩ ⟨10⟩).1 = true := by
    rw [(arises_overdue.tidy.expire 0 ⟨#[107]⟩ ⟨5, 0⟩ ⟨10⟩).1, record?_overdue, Option.isSome_some]
  have hcall := Course.start.call_of_reply (c := .expire (0, ⟨#[107]⟩) ⟨5, 0⟩ ⟨10⟩)
    (fun t ht => (Option.some.inj ht).symm) (congrArg Reply.flag hfound)
  exact hcall.tick (by decide)

/-- No deadline any more. -/
theorem course_persist : Course overdue ⟨10⟩ [(.persist (0, ⟨#[107]⟩), .flag true)]
    (overdue.persist 0 ⟨#[107]⟩).2 ⟨10⟩ := by
  have hfound : (overdue.persist 0 ⟨#[107]⟩).1 = true := by
    rw [(arises_overdue.tidy.persist 0 ⟨#[107]⟩).1, record?_overdue, Option.any_some,
      Option.isSome_some]
  exact Course.start.call_of_reply (c := .persist (0, ⟨#[107]⟩)) nofun
    (congrArg Reply.flag hfound)

theorem get_eq_revived_overdue :
    overdue.Arises ∧ overdue.deadline? 0 ⟨#[107]⟩ = some 10 ∧
    Course overdue ⟨10⟩ [(.expire (0, ⟨#[107]⟩) ⟨5, 0⟩ ⟨10⟩, .flag true)]
      (overdue.expire 0 ⟨#[107]⟩ ⟨5, 0⟩ ⟨10⟩).2 ⟨14⟩ ∧
    ((overdue.expire 0 ⟨#[107]⟩ ⟨5, 0⟩ ⟨10⟩).2.get 0 ⟨#[107]⟩ ⟨14⟩).1 = some ⟨#[118]⟩ ∧
    (overdue.get 0 ⟨#[107]⟩ ⟨10⟩).1 = none := by
  refine ⟨arises_overdue, deadline?_overdue, course_expire, ?_, ?_⟩
  · have h := get_eq_revived (a := (0, ⟨#[107]⟩)) arises_overdue deadline?_overdue (Nat.le_refl 10)
      course_expire (by simp)
    obtain ⟨⟨entry, hentry, hget⟩, -⟩ := h
    cases entry?_overdue.symm.trans hentry
    rw [revived_cons (decided_flag rfl rfl true)] at hget
    exact hget
  · exact (get_eq_revived (a := (0, ⟨#[107]⟩)) arises_overdue deadline?_overdue (Nat.le_refl 10)
      .start (by simp)).2 (by simp)

/-- A key that had expired, whose deadline is taken away before it is read, is found. -/
theorem found_overdue :
    overdue.Arises ∧ overdue.deadline? 0 ⟨#[107]⟩ = some 10 ∧
    overdue.entry? 0 ⟨#[107]⟩ = some ⟨⟨#[118]⟩, vacant.tracker.created ⟨0⟩⟩ ∧
    Course overdue ⟨10⟩ [(.persist (0, ⟨#[107]⟩), .flag true)]
      (overdue.persist 0 ⟨#[107]⟩).2 ⟨10⟩ ∧
    ((overdue.persist 0 ⟨#[107]⟩).2.get 0 ⟨#[107]⟩ ⟨10⟩).1 = some ⟨#[118]⟩ := by
  obtain ⟨shards, map, hmirrors, hlapsed⟩ := course_persist.exists_lapsed (a := (0, ⟨#[107]⟩))
    arises_overdue entry?_overdue deadline?_overdue (Nat.le_refl 10) (by simp)
  have hget := hlapsed.fst_get hmirrors
  rw [revived_cons (decided_flag rfl rfl true)] at hget
  exact ⟨arises_overdue, deadline?_overdue, entry?_overdue, course_persist, hget⟩

end SampledEviction.Keyspace
