import SampledEviction.Proofs.Decay

/-!
# Using a key

Where keys are ranked by their counters, a key that is used has its decay written back: its stamp
gets the counter that is left, perhaps raised by one, and the present minute. The decay of a key
that is left alone is projected from its old stamp whenever it is ranked. The two must agree, or
else the use of a key could make it the better victim: the minutes up to the use and those after it
are told apart, each number of minutes is divided by the period, and each rounds down.

* `told_add_told_le` — of two times in a row no more is told than of both together
* `decayed_le_decayed_decayed` — decay that is written back in between takes no more
* `rank_accessed_le` — a key that is used ranks no higher than if it had been left alone
-/

namespace SampledEviction

/-! ## Two times in a row -/

/-- Of two times in a row no more is told than of both together: where the clock starts over in one
of them, it does so in both together. -/
theorem CyclicClock.told_add_told_le {n u v w : Nat} (huv : u ≤ v) (hvw : v ≤ w) :
    told n u v + told n v w ≤ told n u w := by
  have hfirst : u / n ≤ v / n := Nat.div_le_div_right huv
  have hsecond : v / n ≤ w / n := Nat.div_le_div_right hvw
  unfold told
  by_cases hsame : u / n = w / n
  · rw [if_pos (by omega), if_pos (by omega), if_pos hsame]
    omega
  · rw [if_neg hsame]
    by_cases hbefore : u / n = v / n
    · -- the clock starts over in the second time, which is then longer than nothing
      have hlonger : v ≠ w := by
        rintro rfl
        exact hsame hbefore
      rw [if_pos hbefore, if_neg (by omega)]
      omega
    · have hlonger : u ≠ v := by
        rintro rfl
        exact hbefore rfl
      rw [if_neg hbefore]
      split <;> omega

namespace Frequency

open CyclicClock

variable {m₀ m₁ m : Moment}

/-! ## Decay in two steps -/

/-- Of a larger counter no less is left. -/
theorem decayed_mono {less counter : Nat} (hle : less ≤ counter) (since now decayMinutes : Nat) :
    decayed since less now decayMinutes ≤ decayed since counter now decayMinutes := by
  rw [decayed_eq, decayed_eq]
  omega

/-- Decay that is written back in between takes no more from a counter than decay all at once. -/
theorem decayed_le_decayed_decayed (hfirst : m₀.seconds ≤ m₁.seconds)
    (hsecond : m₁.seconds ≤ m.seconds)
    (hspan : m.seconds / 60 - m₀.seconds / 60 < Moment.minuteCount) (counter decayMinutes : Nat) :
    decayed m₀.minute counter m.minute decayMinutes
      ≤ decayed m₁.minute (decayed m₀.minute counter m₁.minute decayMinutes) m.minute
          decayMinutes := by
  have hminutes₀ : m₀.seconds / 60 ≤ m₁.seconds / 60 := Nat.div_le_div_right hfirst
  have hminutes₁ : m₁.seconds / 60 ≤ m.seconds / 60 := Nat.div_le_div_right hsecond
  rw [decayed_minutes (Nat.le_trans hfirst hsecond) hspan, decayed_minutes hsecond (by omega),
    decayed_minutes hfirst (by omega)]
  have hperiods : told Moment.minuteCount (m₀.seconds / 60) (m₁.seconds / 60) / decayMinutes
        + told Moment.minuteCount (m₁.seconds / 60) (m.seconds / 60) / decayMinutes
      ≤ told Moment.minuteCount (m₀.seconds / 60) (m.seconds / 60) / decayMinutes :=
    Nat.le_trans Nat.div_add_div_le_add_div
      (Nat.div_le_div_right (told_add_told_le hminutes₀ hminutes₁))
  omega

/-- An access leaves a counter as it is, or raises it by one, but not beyond the top. -/
theorem raised_cases {counter : Nat} (hle : counter ≤ top) (logFactor : Nat) (g : Xoshiro) :
    (raised counter logFactor g).1 = counter ∨
      counter < top ∧ (raised counter logFactor g).1 = counter + 1 := by
  unfold raised
  by_cases hfull : counter = top
  · exact .inl (by rw [if_pos hfull, hfull])
  · rw [if_neg hfull]
    dsimp only
    split
    · exact .inr ⟨Nat.lt_of_le_of_ne hle hfull, rfl⟩
    · exact .inl rfl

end Frequency

/-! ## Stamps that are written back -/

open Frequency

variable {t : Tracker} {m₀ m₁ m : Moment} {s : AccessStamp}

/-- A stamp of a counter that is not beyond the top loses no bit. -/
theorem AccessStamp.ofFrequency_exact {counter : Nat} (m : Moment) (hle : counter ≤ top) :
    (ofFrequency m.minute counter).raw = m.minute * counterCount + counter ∧
      (ofFrequency m.minute counter).minute = m.minute ∧
      (ofFrequency m.minute counter).counter = counter := by
  have hminute : m.minute % Moment.minuteCount = m.minute := Nat.mod_eq_of_lt m.minute_lt
  have hcounter : counter % counterCount = counter := Nat.mod_eq_of_lt (Nat.lt_succ_of_le hle)
  refine ⟨?_, ?_, ?_⟩
  · simp only [ofFrequency, hminute, hcounter]
  · rw [minute_ofFrequency, hminute]
  · rw [counter_ofFrequency, hcounter]

/-- An access writes the present minute, and the counter that is left or one more. -/
theorem Tracker.exists_accessed (ht : t.policy.isLfu = true) (s : AccessStamp) (now : Moment) :
    ∃ counter, (t.accessed s now).1 = .ofFrequency now.minute counter ∧ counter ≤ top ∧
      (counter = decayed s.minute s.counter now.minute t.pace.decayMinutes ∨
        counter = decayed s.minute s.counter now.minute t.pace.decayMinutes + 1) := by
  have hleft : decayed s.minute s.counter now.minute t.pace.decayMinutes ≤ top := by
    have hle := s.counter_le
    rw [decayed_eq]
    omega
  unfold Tracker.accessed
  rw [if_pos ht]
  refine ⟨_, rfl, ?_⟩
  rcases raised_cases hleft t.pace.logFactor t.random with hsame | ⟨hlt, hmore⟩
  · rw [hsame]
    exact ⟨hleft, .inl rfl⟩
  · rw [hmore]
    exact ⟨hlt, .inr rfl⟩

theorem Ranking.rank?_of_isLfu {r : Ranking} (hr : r.policy.isLfu = true) (s : AccessStamp)
    (m : Moment) : r.rank? (.stamp s) m = some (Rank.infrequent s m.minute r.decayMinutes) := by
  have hlru : r.policy.isLru = false := by
    cases hpolicy : r.policy <;> simp [hpolicy, Policy.isLfu, Policy.isLru] at hr ⊢
  simp [Ranking.rank?, hlru, hr]

/-- A key that is used ranks no higher, at any later moment less than a round of the minute counter
after its stamp was written, than if it had been left alone. Its new stamp has 24 bits: the minute
of the use, and the counter that was left by then or one more, which is no larger than a full one.
-/
theorem rank_accessed_le {r : Ranking} (ht : t.policy.isLfu = true) (hr : r.policy.isLfu = true)
    (hpace : r.decayMinutes = t.pace.decayMinutes) (hs : s.minute = m₀.minute)
    (hfirst : m₀.seconds ≤ m₁.seconds) (hsecond : m₁.seconds ≤ m.seconds)
    (hspan : m.seconds / 60 - m₀.seconds / 60 < Moment.minuteCount) :
    ∃ counter,
      (t.accessed s m₁).1.raw = m₁.minute * AccessStamp.counterCount + counter ∧
      (t.accessed s m₁).1.raw < Moment.tickCount ∧
      (t.accessed s m₁).1.minute = m₁.minute ∧ (t.accessed s m₁).1.counter = counter ∧
      counter ≤ top ∧
      (counter = decayed s.minute s.counter m₁.minute t.pace.decayMinutes ∨
        counter = decayed s.minute s.counter m₁.minute t.pace.decayMinutes + 1) ∧
      ∃ i i', r.rank? (.stamp s) m = some i ∧ r.rank? (.stamp (t.accessed s m₁).1) m = some i' ∧
        i = Rank.infrequent s m.minute t.pace.decayMinutes ∧
        i' = Rank.infrequent (t.accessed s m₁).1 m.minute t.pace.decayMinutes ∧ i' ≤ i := by
  obtain ⟨counter, hstamp, hle, hcounter⟩ := t.exists_accessed ht s m₁
  obtain ⟨hraw, hminute, hread⟩ := AccessStamp.ofFrequency_exact m₁ hle
  have hleft : decayed s.minute s.counter m.minute t.pace.decayMinutes
      ≤ decayed m₁.minute counter m.minute t.pace.decayMinutes := by
    rw [hs] at hcounter ⊢
    calc decayed m₀.minute s.counter m.minute t.pace.decayMinutes
        ≤ decayed m₁.minute (decayed m₀.minute s.counter m₁.minute t.pace.decayMinutes) m.minute
            t.pace.decayMinutes := decayed_le_decayed_decayed hfirst hsecond hspan _ _
      _ ≤ decayed m₁.minute counter m.minute t.pace.decayMinutes :=
          decayed_mono (by omega) _ _ _
  rw [hstamp]
  refine ⟨counter, hraw, AccessStamp.raw_lt _, hminute, hread, hle, hcounter, ?_⟩
  refine ⟨_, _, Ranking.rank?_of_isLfu hr s m, Ranking.rank?_of_isLfu hr _ m, ?_, ?_, ?_⟩
  · rw [hpace]
  · rw [hpace]
  · unfold Rank.infrequent
    rw [hpace, hminute, hread]
    exact Nat.sub_le_sub_left hleft top

/-- A tracker of frequencies under which a point is lost in seven minutes. -/
def frequencyTracker : Tracker :=
  { policy := .allKeysLfu, pace := { decayMinutes := 7 }, random := .ofSeed 0 }

/-- A key with a counter of 200 that is used after the minute counter has started over. The hundred
minutes until then cost fourteen points and five more would cost the fifteenth, but not if the
period starts anew. -/
theorem rank_accessed_le_restarted :
    (frequencyTracker.policy.isLfu = true ∧
      (AccessStamp.ofFrequency 65535 200).minute = (Moment.mk 3932100).minute ∧
      3932100 ≤ 3938160 ∧ 3938160 ≤ 3938460 ∧
      3938460 / 60 - 3932100 / 60 < Moment.minuteCount) ∧
    ∃ counter i i', (counter = 186 ∨ counter = 187) ∧
      (frequencyTracker.accessed (.ofFrequency 65535 200) ⟨3938160⟩).1.raw = 100 * 256 + counter ∧
      (Ranking.mk .volatileLfu 7).rank? (.stamp (.ofFrequency 65535 200)) ⟨3938460⟩ = some i ∧
      (Ranking.mk .volatileLfu 7).rank?
        (.stamp (frequencyTracker.accessed (.ofFrequency 65535 200) ⟨3938160⟩).1) ⟨3938460⟩
          = some i' ∧ i = 70 ∧ i' ≤ i := by
  have hspan : 3938460 / 60 - 3932100 / 60 < Moment.minuteCount := by decide
  have hs : (AccessStamp.ofFrequency 65535 200).minute = (Moment.mk 3932100).minute := by decide
  have hfirst : (Moment.mk 3932100).seconds ≤ (Moment.mk 3938160).seconds := by decide
  have hsecond : (Moment.mk 3938160).seconds ≤ (Moment.mk 3938460).seconds := by decide
  obtain ⟨counter, hraw, -, -, -, -, hcounter, i, i', hi, hi', hrank, -, hle⟩ :=
    rank_accessed_le (t := frequencyTracker) (r := ⟨.volatileLfu, 7⟩) rfl rfl rfl hs hfirst hsecond
      hspan
  have hleft : decayed (AccessStamp.ofFrequency 65535 200).minute
      (AccessStamp.ofFrequency 65535 200).counter (Moment.mk 3938160).minute 7 = 186 := by decide
  refine ⟨⟨rfl, hs, hfirst, hsecond, hspan⟩, counter, i, i', ?_, hraw, hi, hi', ?_, hle⟩
  · exact hleft ▸ hcounter
  · exact hrank.trans (by decide)

end SampledEviction
