import SampledEviction.Proofs.Benchmark.Course

/-!
# The hot keys of a workload

So many percent of the keys are hot, rounded down, but one key at least. The product of the keys and
their percentage is formed in a word of 64 bits. Settings with keys of sixteen digits are accepted
for any number of keys, so the product may not fit: the hot keys cannot be counted then, and a run
fails before its first operation.

* `hotKeys_eq_some_iff`, `hotKeys_eq_none_iff` — the share that is hot, if the product fits
* `hotShare_mono` — more keys and a larger percentage make no fewer keys hot
* `loop_ne_overflow` — no operation fails for want of the number of hot keys
* `execute_eq_overflow_iff` — a run does if and only if the product does not fit
* `lt_of_mem_drawn` — the numbers that a run draws are those of keys
* `hotKeys_exact_iff` — all of this for accepted settings
* `exists_hotKeys_overflow` — accepted settings for which one percent more is one too many
-/

namespace SampledEviction.Benchmark

open Keyspace (Site)

/-! ## The number of hot keys -/

namespace Workload

variable {w w' : Workload}

theorem hotKeys_eq_some_iff {n : Nat} : w.hotKeys = some n ↔ w.Fits ∧ w.hotShare = n := by
  by_cases h : w.Fits
  · rw [hotKeys_of_fits h, Option.some.injEq, and_iff_right h]
  · rw [hotKeys_of_not_fits h]
    exact iff_of_false nofun fun hfits => h hfits.1

theorem hotKeys_eq_none_iff : w.hotKeys = none ↔ ¬ w.Fits := by
  by_cases h : w.Fits
  · rw [hotKeys_of_fits h]
    exact iff_of_false nofun (not_not_intro h)
  · exact iff_of_true (hotKeys_of_not_fits h) h

/-- More keys and a larger percentage make no fewer keys hot. -/
theorem hotShare_mono (hkeys : w.keys ≤ w'.keys)
    (hpercent : w.hotPercent ≤ w'.hotPercent) : w.hotShare ≤ w'.hotShare := by
  have hquotient : w.keys * w.hotPercent / 100 ≤ w'.keys * w'.hotPercent / 100 :=
    Nat.div_le_div_right (Nat.mul_le_mul hkeys hpercent)
  unfold hotShare
  omega

/-- If the product of a workload fits, so does that of a smaller one. -/
theorem Fits.mono (h : w'.Fits) (hkeys : w.keys ≤ w'.keys)
    (hpercent : w.hotPercent ≤ w'.hotPercent) : w.Fits :=
  Nat.lt_of_le_of_lt (Nat.mul_le_mul hkeys hpercent) h

end Workload

namespace Run

variable {s : Settings} {env : Environment} {value : Bytes} {done : Nat} {r : Run}

/-! ## Where a run fails -/

theorem check_ne_overflow : check env r ≠ .error .overflow := by
  unfold check
  split
  · nofun
  · split <;> nofun

theorem write_ne_overflow {t : Target} {now : Moment} :
    write s value t now r ≠ .error .overflow := by
  unfold write
  dsimp only
  split <;> nofun

theorem report_ne_overflow : report env done r ≠ .error .overflow := by
  unfold report
  split <;> nofun

theorem finish_ne_overflow : finish s env r ≠ .error .overflow := by
  unfold finish
  dsimp only
  split <;> nofun

theorem readOrWrite_ne_overflow : readOrWrite s env value r ≠ .error .overflow := by
  unfold readOrWrite
  dsimp only
  split
  · nofun
  · split
    · rename_i e hcheck
      rintro ⟨⟩
      exact check_ne_overflow hcheck
    · nofun
    · rename_i r' notices _
      cases hwrite : write s value (draw s r).1 (env.clock.now r'.scene.site) r' with
      | error e =>
        rintro ⟨⟩
        exact write_ne_overflow hwrite
      | ok r'' => nofun

theorem step_ne_overflow : step s env value done r ≠ .error .overflow := by
  unfold step
  split
  · rename_i e hop
    rintro ⟨⟩
    exact readOrWrite_ne_overflow hop
  · split
    · split
      · rename_i e hreport
        rintro ⟨⟩
        exact report_ne_overflow hreport
      · nofun
    · nofun

/-- No operation fails for want of the number of hot keys. -/
theorem loop_ne_overflow {left : Nat} {log : List Notice} :
    loop s env value left done r log ≠ .error .overflow := by
  induction left generalizing done r log with
  | zero => nofun
  | succ left ih =>
    unfold loop
    cases hstep : step s env value done r with
    | error e =>
      rintro ⟨⟩
      exact step_ne_overflow hstep
    | ok x => exact ih

/-! ## The numbers that a run draws -/

/-- The numbers that `left` operations after `done` others draw, up to one that fails. -/
def drawn (s : Settings) (env : Environment) (value : Bytes) : Nat → Nat → Run → List Nat
  | 0, _, _ => []
  | left + 1, done, r =>
    (drawId s.workload r.random).1 ::
      match step s env value done r with
      | .error _ => []
      | .ok (r, _) => drawn s env value left (done + 1) r

/-- A run that comes to its end has drawn a number for each of its operations. -/
theorem length_drawn {left : Nat} {r' : Run} {log log' : List Notice}
    (h : loop s env value left done r log = .ok (r', log')) :
    (drawn s env value left done r).length = left := by
  induction left generalizing done r log with
  | zero => rfl
  | succ left ih =>
    unfold loop at h
    unfold drawn
    cases hstep : step s env value done r with
    | error e =>
      rw [hstep] at h
      cases h
    | ok x =>
      rw [hstep] at h
      exact congrArg (· + 1) (ih h)

/-- The numbers that a run draws are those of keys, whichever state it starts in. -/
theorem lt_of_mem_drawn (hw : s.workload.Accepted) {left id : Nat}
    (hid : id ∈ drawn s env value left done r) : id < s.workload.keys := by
  induction left generalizing done r with
  | zero => cases hid
  | succ left ih =>
    unfold drawn at hid
    rcases List.mem_cons.mp hid with rfl | hid
    · exact drawId_lt hw r.random
    · cases hstep : step s env value done r with
      | error e =>
        rw [hstep] at hid
        cases hid
      | ok x =>
        rw [hstep] at hid
        exact ih hid

end Run

/-! ## Accepted settings -/

/-- A run on accepted settings fails for want of the number of hot keys if and only if the product
does not fit. -/
theorem execute_eq_overflow_iff {s : Settings} (hs : s.validate = .ok ()) (env : Environment)
    (wall : ManualClock) (entropy : Nat) :
    execute s env wall entropy = .error .overflow ↔ ¬ s.workload.Fits := by
  obtain ⟨keyspace, evictor, -, -, hstart⟩ := Run.exists_start hs wall entropy
  unfold execute Run.complete
  by_cases hfits : s.workload.Fits
  · refine iff_of_false ?_ (not_not_intro hfits)
    simp only [hstart, Run.countHot_of_fits hfits, bind, Except.bind]
    split
    · rename_i e hloop
      rintro ⟨⟩
      exact Run.loop_ne_overflow hloop
    · split
      · rename_i e hfinish
        rintro ⟨⟩
        exact Run.finish_ne_overflow hfinish
      · nofun
  · refine iff_of_true ?_ hfits
    simp only [hstart, Run.countHot_of_not_fits hfits, bind, Except.bind]

/-- The hot keys of accepted settings are the share of the keys that was asked for if and only if
the product of the keys and their percentage fits into a word. Otherwise they cannot be counted, and
a run fails before its first operation; no run fails so for another reason. If the product fits,
more keys and a larger percentage make no fewer keys hot. Of the hot keys that can be counted there
is one at least, and there are no more than keys, and a run draws numbers of keys only, one for each
of its operations. -/
theorem hotKeys_exact_iff {s : Settings} (hs : s.validate = .ok ()) :
    (s.workload.hotKeys = some s.workload.hotShare ↔ s.workload.Fits) ∧
    (s.workload.hotKeys = none ↔ ¬ s.workload.Fits) ∧
    (∀ (env : Environment) (wall : ManualClock) (entropy : Nat),
      execute s env wall entropy = .error .overflow ↔ ¬ s.workload.Fits) ∧
    (s.workload.Fits → ∀ w : Workload, w.keys ≤ s.workload.keys →
      w.hotPercent ≤ s.workload.hotPercent →
      ∃ m n, w.hotKeys = some m ∧ s.workload.hotKeys = some n ∧ m ≤ n) ∧
    (∀ n, s.workload.hotKeys = some n → 1 ≤ n ∧ n ≤ s.workload.keys) ∧
    ∀ (env : Environment) (value : Bytes) (left done : Nat) (r : Run),
      (∀ id ∈ Run.drawn s env value left done r, id < s.workload.keys) ∧
      ∀ log r' log', Run.loop s env value left done r log = .ok (r', log') →
        (Run.drawn s env value left done r).length = left := by
  obtain ⟨-, -, hw⟩ := Settings.validate_iff.mp hs
  refine ⟨?_, Workload.hotKeys_eq_none_iff, execute_eq_overflow_iff hs, ?_, ?_, ?_⟩
  · rw [Workload.hotKeys_eq_some_iff]
    exact and_iff_left rfl
  · intro hfits w hkeys hpercent
    exact ⟨_, _, Workload.hotKeys_of_fits (hfits.mono hkeys hpercent),
      Workload.hotKeys_of_fits hfits, Workload.hotShare_mono hkeys hpercent⟩
  · intro n hn
    obtain ⟨-, rfl⟩ := Workload.hotKeys_eq_some_iff.mp hn
    exact ⟨s.workload.hotShare_pos, Workload.hotShare_le hw.keys hw.hotPercent⟩
  · intro env value left done r
    exact ⟨fun id hid => Run.lt_of_mem_drawn hw hid,
      fun log r' log' hloop => Run.length_drawn hloop⟩

/-- A workload of `2 ^ 58` keys, some percent of which are hot. -/
def vastSettings (percent : Nat) : Settings where
  workload := { keys := 0x400_0000_0000_0000, hotPercent := percent }

/-- The largest percentage of these keys whose product with them fits, and a thousand operations of
a run. -/
theorem hotKeys_exact_iff_vast :
    (vastSettings 63).validate = .ok () ∧
    (vastSettings 63).workload.Fits ∧
    (vastSettings 63).workload.hotKeys = some 181585136975578398 ∧
    (∃ m, (vastSettings 62).workload.hotKeys = some m ∧ m ≤ 181585136975578398) ∧
    execute (vastSettings 63) (.tracked Site.manual) {} 0 ≠ .error .overflow ∧
    ∃ r value, Run.start (vastSettings 63) {} 0 = .ok (r, value) ∧
      (Run.drawn (vastSettings 63) (.tracked Site.manual) value 1000 0 r).length = 1000 ∧
      ∀ id ∈ Run.drawn (vastSettings 63) (.tracked Site.manual) value 1000 0 r,
        id < (vastSettings 63).workload.keys := by
  have hs : (vastSettings 63).validate = .ok () := rfl
  have hfits : (vastSettings 63).workload.Fits := by decide
  obtain ⟨hexact, -, hexecute, hmono, -, hdrawn⟩ := hotKeys_exact_iff hs
  have hhot : (vastSettings 63).workload.hotKeys = some 181585136975578398 := hexact.mpr hfits
  obtain ⟨m, n, hm, hn, hle⟩ := hmono hfits (vastSettings 62).workload (Nat.le_refl _) (by decide)
  have hfewer : m ≤ 181585136975578398 := Option.some.inj (hn.symm.trans hhot) ▸ hle
  obtain ⟨keyspace, evictor, hcreated, hevictor, hstart⟩ := Run.exists_start hs {} 0
  have hkeeps := Run.keeps_course Site.timepiece_manual (Nat.succ_pos 15) (vastSettings 63)
    (Run.payload (vastSettings 63))
  obtain ⟨r', log, hloop, -⟩ :=
    hkeeps.exists_loop (Run.onCourse_opening hcreated hevictor {}) 1000 []
  obtain ⟨hbelow, hlength⟩ := hdrawn _ _ _ _ _
  exact ⟨hs, hfits, hhot, ⟨m, hm, hfewer⟩, fun h => (hexecute _ _ _).mp h hfits,
    _, _, hstart, hlength _ _ _ hloop, hbelow⟩

/-- One more percent of these keys, and the product is `2 ^ 64`: instead of more hot keys there is
no number of them, and no run. -/
theorem exists_hotKeys_overflow : ∃ s s' : Settings,
    s.validate = .ok () ∧ s'.validate = .ok () ∧ s'.workload.keys ≤ 9223372036854775807 ∧
    s.workload.keys = s'.workload.keys ∧ s.workload.hotPercent < s'.workload.hotPercent ∧
    s.workload.hotKeys = some 181585136975578398 ∧ s'.workload.hotKeys = none ∧
    max 1 (s'.workload.keys * s'.workload.hotPercent / 100) = 184467440737095516 ∧
    execute s' (.tracked Site.manual) {} 0 = .error .overflow :=
  ⟨vastSettings 63, vastSettings 64, rfl, rfl, by decide, rfl, by decide, rfl, rfl, rfl,
    (execute_eq_overflow_iff rfl _ _ _).mpr (by decide)⟩

end SampledEviction.Benchmark
