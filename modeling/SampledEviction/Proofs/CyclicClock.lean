import SampledEviction.Ranking
import SampledEviction.Tracker

/-!
# Clocks that start over

A stamp holds the reading of a clock that starts over, either of the seconds after `2 ^ 24` of them
or of the minutes after `2 ^ 16`. Two readings tell how long ago the earlier one was, as long as
that is less than a round of the clock, but for one unit that is lost where the clock started over.

* `gap_readings` — what two readings tell
* `told_le_told` — it never falls as time goes on, nor for an earlier start
* `idle_in_order` — keys are ranked by their last use, also where the clock started over in between
-/

namespace SampledEviction

namespace CyclicClock

/-! ## Two readings -/

/-- The units from one reading of a clock of `n` units to a later one. -/
def gap (n last now : Nat) : Nat := if last ≤ now then now - last else now + (n - 1 - last)

/-- The same over the integers, where no difference stops at zero. -/
def signedGap (n last now : Int) : Int := if last ≤ now then now - last else now + (n - 1 - last)

/-- The units between two times of which the readings of a clock of `n` units tell: all of them, or
all but one where the clock has started over in between. -/
def told (n u v : Nat) : Nat := if u / n = v / n then v - u else v - u - 1

variable {n u v w x : Nat}

/-- The difference of two readings never falls below zero. -/
theorem gap_eq_signedGap {last : Nat} (hlast : last < n) (now : Nat) :
    (gap n last now : Int) = signedGap n last now := by
  unfold gap signedGap
  by_cases hle : last ≤ now
  · rw [if_pos hle, if_pos (Int.ofNat_le.mpr hle)]
    omega
  · rw [if_neg hle, if_neg (mt Int.ofNat_le.mp hle)]
    omega

/-- Within less than a round a clock starts over at most once. -/
theorem round_eq_succ (hle : u ≤ v) (hspan : v - u < n) (hother : u / n ≠ v / n) :
    v / n = u / n + 1 := by
  have hpos : 0 < n := Nat.zero_lt_of_lt hspan
  have hlower : u / n ≤ v / n := Nat.div_le_div_right hle
  have hupper : v / n ≤ (u + n) / n := Nat.div_le_div_right (by omega)
  rw [Nat.add_div_right u hpos] at hupper
  omega

/-- Two readings tell the time in between, if it is less than a round. -/
theorem gap_readings (hle : u ≤ v) (hspan : v - u < n) : gap n (u % n) (v % n) = told n u v := by
  have hpos : 0 < n := Nat.zero_lt_of_lt hspan
  have hu := Nat.div_add_mod u n
  have hv := Nat.div_add_mod v n
  have hlast := Nat.mod_lt u hpos
  unfold gap told
  by_cases hsame : u / n = v / n
  · rw [hsame] at hu
    rw [if_pos (by omega), if_pos hsame]
    omega
  · -- the later reading is the smaller one, since less than a round lies in between
    rw [round_eq_succ hle hspan hsame, Nat.mul_succ] at hv
    rw [if_neg (by omega), if_neg hsame]
    omega

/-! ## Time goes on -/

/-- Of a longer time no less is told. -/
theorem told_le_told (huv : u ≤ v) (hvw : v ≤ w) (hwx : w ≤ x) : told n v w ≤ told n u x := by
  have hfirst : u / n ≤ v / n := Nat.div_le_div_right huv
  have hsecond : v / n ≤ w / n := Nat.div_le_div_right hvw
  have hthird : w / n ≤ x / n := Nat.div_le_div_right hwx
  unfold told
  by_cases hsame : u / n = x / n
  · rw [if_pos hsame, if_pos (by omega)]
    omega
  · rw [if_neg hsame]
    split
    · -- the clock starts over only in the longer time, which is longer by the unit that is lost
      rename_i hstill
      have hlonger : w - v < x - u := by
        refine Nat.lt_of_le_of_ne (by omega) fun heq => hsame ?_
        obtain ⟨rfl, rfl⟩ : u = v ∧ w = x := by omega
        exact hstill
      omega
    · omega

end CyclicClock

/-! ## The last use of a key -/

open CyclicClock

theorem Policy.isLfu_of_isLru {p : Policy} (h : p.isLru = true) : p.isLfu = false := by
  cases p <;> first | rfl | cases h

/-- The stamps that a tracker gives at a moment. -/
inductive Tracker.Stamps (t : Tracker) (m : Moment) : AccessStamp → Prop where
  | created : t.Stamps m (t.created m)
  | accessed (old : AccessStamp) : t.Stamps m (t.accessed old m).1

variable {t t₀ t₁ : Tracker} {m m₀ m₁ : Moment} {s s₀ s₁ : AccessStamp}

theorem Tracker.Stamps.tick (h : t.Stamps m s) (ht : t.policy.isLru = true) : s.tick = m.tick := by
  have hlfu := Policy.isLfu_of_isLru ht
  have hreading : (AccessStamp.ofTick m.tick).tick = m.tick := Nat.mod_eq_of_lt m.tick_lt
  cases h with
  | created =>
    unfold Tracker.created
    rw [hlfu, if_neg Bool.false_ne_true, hreading]
  | accessed old =>
    unfold Tracker.accessed
    rw [hlfu, if_neg Bool.false_ne_true, hreading]

theorem Rank.idle_eq_gap (last now : Nat) :
    Rank.idle last now = gap Moment.tickCount last now * 1000 := rfl

/-- The rank of a key by its last use is the time since then. -/
theorem Ranking.rank?_of_stamps {r : Ranking} (hr : r.policy.isLru = true) (h : t.Stamps m₀ s)
    (ht : t.policy.isLru = true) (hle : m₀.seconds ≤ m.seconds)
    (hspan : m.seconds - m₀.seconds < Moment.tickCount) :
    r.rank? (.stamp s) m = some (told Moment.tickCount m₀.seconds m.seconds * 1000) := by
  have hgap : gap Moment.tickCount m₀.tick m.tick = told Moment.tickCount m₀.seconds m.seconds :=
    gap_readings hle hspan
  simp only [Ranking.rank?, hr, if_true, Rank.idle_eq_gap, h.tick ht, hgap]

/-- Of two keys the one that was used earlier ranks no lower, as long as its last use is less than a
round of the tick counter ago. Its rank is the time since then in milliseconds, but for one tick
where the counter has started over; it never falls in all that time, and no difference of readings
falls below zero. -/
theorem idle_in_order {r : Ranking} (hr : r.policy.isLru = true)
    (hs₀ : t₀.Stamps m₀ s₀) (ht₀ : t₀.policy.isLru = true)
    (hs₁ : t₁.Stamps m₁ s₁) (ht₁ : t₁.policy.isLru = true)
    (hfirst : m₀.seconds ≤ m₁.seconds) (hsecond : m₁.seconds ≤ m.seconds)
    (hspan : m.seconds - m₀.seconds < Moment.tickCount) :
    ∃ i₀ i₁, r.rank? (.stamp s₀) m = some i₀ ∧ r.rank? (.stamp s₁) m = some i₁ ∧ i₁ ≤ i₀ ∧
      (m₀.seconds / Moment.tickCount = m.seconds / Moment.tickCount →
        i₀ = 1000 * (m.seconds - m₀.seconds)) ∧
      (m₀.seconds / Moment.tickCount ≠ m.seconds / Moment.tickCount →
        i₀ = 1000 * (m.seconds - m₀.seconds - 1)) ∧
      (∀ m' : Moment, m₀.seconds ≤ m'.seconds → m'.seconds ≤ m.seconds →
        ∃ i, r.rank? (.stamp s₀) m' = some i ∧ i ≤ i₀) ∧
      (i₀ : Int) = signedGap Moment.tickCount s₀.tick m.tick * 1000 ∧
      (i₁ : Int) = signedGap Moment.tickCount s₁.tick m.tick * 1000 := by
  have hsigned (s : AccessStamp) :
      (Rank.idle s.tick m.tick : Int) = signedGap Moment.tickCount s.tick m.tick * 1000 := by
    have hlast : s.tick < Moment.tickCount := s.raw_lt
    rw [Rank.idle_eq_gap, Int.natCast_mul, gap_eq_signedGap hlast]
    rfl
  have hle : m₀.seconds ≤ m.seconds := Nat.le_trans hfirst hsecond
  have hrank₀ := Ranking.rank?_of_stamps hr hs₀ ht₀ hle hspan
  have hrank₁ := Ranking.rank?_of_stamps hr hs₁ ht₁ hsecond (by omega)
  have hidle (s : AccessStamp) : r.rank? (.stamp s) m = some (Rank.idle s.tick m.tick) := by
    simp only [Ranking.rank?, hr, if_true]
  refine ⟨_, _, hrank₀, hrank₁, ?_, ?_, ?_, ?_, ?_, ?_⟩
  · exact Nat.mul_le_mul_right 1000 (told_le_told hfirst hsecond (Nat.le_refl _))
  · intro hsame
    rw [told, if_pos hsame, Nat.mul_comm]
  · intro hother
    rw [told, if_neg hother, Nat.mul_comm]
  · intro m' hstart hend
    have hrank := Ranking.rank?_of_stamps hr hs₀ ht₀ hstart (m := m') (by omega)
    exact ⟨_, hrank, Nat.mul_le_mul_right 1000 (told_le_told (Nat.le_refl _) hstart hend)⟩
  · rw [← hsigned, Option.some.inj (hrank₀.symm.trans (hidle s₀))]
  · rw [← hsigned, Option.some.inj (hrank₁.symm.trans (hidle s₁))]

/-- A tracker of last uses. -/
def useTracker : Tracker := { policy := .volatileLru, pace := {}, random := .ofSeed 0 }

/-- Two keys of which one was created before the tick counter started over, and the other read
after it. -/
theorem idle_in_order_restarted :
    (useTracker.Stamps ⟨16777210⟩ (useTracker.created ⟨16777210⟩) ∧
      useTracker.Stamps ⟨16777220⟩ (useTracker.accessed ⟨0, by decide⟩ ⟨16777220⟩).1) ∧
    useTracker.policy.isLru = true ∧ 16777300 - 16777210 < Moment.tickCount ∧
    ∃ i₀ i₁,
      (Ranking.mk .allKeysLru 1).rank? (.stamp (useTracker.created ⟨16777210⟩)) ⟨16777300⟩ = some i₀ ∧
      (Ranking.mk .allKeysLru 1).rank? (.stamp (useTracker.accessed ⟨0, by decide⟩ ⟨16777220⟩).1)
        ⟨16777300⟩ = some i₁ ∧
      i₁ ≤ i₀ ∧ i₀ = 89000 := by
  have hspan : 16777300 - 16777210 < Moment.tickCount := by decide
  obtain ⟨i₀, i₁, h₀, h₁, hle, -, hother, -⟩ :=
    idle_in_order (r := ⟨.allKeysLru, 1⟩) (m := ⟨16777300⟩) rfl
      (.created (t := useTracker) (m := ⟨16777210⟩)) rfl
      (.accessed (t := useTracker) (m := ⟨16777220⟩) ⟨0, by decide⟩) rfl
      (by decide) (by decide) hspan
  exact ⟨⟨.created, .accessed _⟩, rfl, hspan, i₀, i₁, h₀, h₁, hle, hother (by decide)⟩

end SampledEviction
