import SampledEviction.Proofs.CyclicClock

/-!
# Decay of access counters

A counter loses a point for every period of minutes since it was written. The minutes are read off a
clock that starts over, so the loss is that of the true time, but for one minute where the clock
started over in between. Stamps have eight bits for a counter and sixteen for a minute; words of
these widths are wide enough to compute with.

* `decayed_minutes` — what is left of a counter
* `toNat_decayedWord` — what is left when it is computed in words
* `decayed_follows` — decay follows the true time
-/

namespace SampledEviction.Frequency

open CyclicClock

variable {m m₀ : Moment} {counter decayMinutes : Nat}

/-! ## True time -/

theorem elapsed_eq_gap (since now : Nat) :
    elapsed since now = gap Moment.minuteCount since now := by
  unfold elapsed gap
  split
  · rfl
  · exact Nat.add_comm _ _

/-- A counter loses a point for every period, and at most all of them. -/
theorem decayed_eq (since counter now decayMinutes : Nat) :
    decayed since counter now decayMinutes
      = counter - min counter (periods since now decayMinutes) := by
  unfold decayed
  split <;> omega

/-- The periods between two moments that are less than a round of the minute counter apart. -/
theorem periods_minutes (hle : m₀.seconds ≤ m.seconds)
    (hspan : m.seconds / 60 - m₀.seconds / 60 < Moment.minuteCount) (decayMinutes : Nat) :
    periods m₀.minute m.minute decayMinutes
      = told Moment.minuteCount (m₀.seconds / 60) (m.seconds / 60) / decayMinutes := by
  have hgap : gap Moment.minuteCount m₀.minute m.minute
      = told Moment.minuteCount (m₀.seconds / 60) (m.seconds / 60) :=
    gap_readings (Nat.div_le_div_right hle) hspan
  unfold periods
  rw [elapsed_eq_gap, hgap]
  split
  · rename_i hzero
    rw [hzero, Nat.div_zero]
  · rfl

/-- What is left of a counter at a moment less than a round of the minute counter later. -/
theorem decayed_minutes (hle : m₀.seconds ≤ m.seconds)
    (hspan : m.seconds / 60 - m₀.seconds / 60 < Moment.minuteCount) (counter decayMinutes : Nat) :
    decayed m₀.minute counter m.minute decayMinutes
      = counter - min counter
        (told Moment.minuteCount (m₀.seconds / 60) (m.seconds / 60) / decayMinutes) := by
  rw [decayed_eq, periods_minutes hle hspan]

/-! ## Words -/

/-- The minutes between two readings, computed in words. -/
def elapsedWord (since now : UInt16) : UInt32 :=
  if since.toUInt32 ≤ now.toUInt32 then now.toUInt32 - since.toUInt32
  else 0xffff - since.toUInt32 + now.toUInt32

/-- The periods between two readings, computed in words. -/
def periodsWord (since now : UInt16) (decayMinutes : UInt32) : UInt32 :=
  if 0 < decayMinutes then elapsedWord since now / decayMinutes else 0

/-- What is left of a counter, computed in words. The periods are narrowed to the width of the
counter before they are taken off. -/
def decayedWord (since : UInt16) (counter : UInt8) (now : UInt16) (decayMinutes : UInt32) : UInt8 :=
  if counter.toUInt32 < periodsWord since now decayMinutes then 0
  else counter - (periodsWord since now decayMinutes).toUInt8

theorem toNat_elapsedWord (since now : UInt16) :
    (elapsedWord since now).toNat = elapsed since.toNat now.toNat := by
  have hsince := since.toNat_lt
  have hnow := now.toNat_lt
  have htop : (0xffff : UInt32).toNat = 65535 := rfl
  unfold elapsedWord elapsed Moment.minuteCount
  simp only [UInt32.le_iff_toNat_le, UInt16.toNat_toUInt32]
  split
  · rw [UInt32.toNat_sub, UInt16.toNat_toUInt32, UInt16.toNat_toUInt32]
    omega
  · rw [UInt32.toNat_add, UInt32.toNat_sub, UInt16.toNat_toUInt32, UInt16.toNat_toUInt32, htop]
    omega

theorem toNat_periodsWord (since now : UInt16) (decayMinutes : UInt32) :
    (periodsWord since now decayMinutes).toNat
      = periods since.toNat now.toNat decayMinutes.toNat := by
  unfold periodsWord periods
  simp only [UInt32.lt_iff_toNat_lt, UInt32.toNat_zero]
  by_cases hzero : decayMinutes.toNat = 0
  · rw [if_neg (by omega), if_pos hzero]
    rfl
  · rw [if_pos (by omega), if_neg hzero, UInt32.toNat_div, toNat_elapsedWord]

/-- Where periods are taken off a counter, narrowing loses none of them. -/
theorem toNat_narrowed {periods : UInt32} {counter : UInt8}
    (hle : ¬ counter.toUInt32 < periods) : periods.toUInt8.toNat = periods.toNat := by
  have hcounter := counter.toNat_lt
  rw [UInt32.lt_iff_toNat_lt, UInt8.toNat_toUInt32] at hle
  rw [UInt32.toNat_toUInt8]
  omega

theorem toNat_decayedWord (since : UInt16) (counter : UInt8) (now : UInt16)
    (decayMinutes : UInt32) : (decayedWord since counter now decayMinutes).toNat
      = decayed since.toNat counter.toNat now.toNat decayMinutes.toNat := by
  unfold decayedWord decayed
  rw [← toNat_periodsWord]
  by_cases hlt : counter.toUInt32 < periodsWord since now decayMinutes
  · have hnat := UInt32.lt_iff_toNat_lt.mp hlt
    rw [UInt8.toNat_toUInt32] at hnat
    rw [if_pos hlt, if_pos hnat]
    rfl
  · have hnat := mt UInt32.lt_iff_toNat_lt.mpr hlt
    rw [UInt8.toNat_toUInt32] at hnat
    have hcounter := counter.toNat_lt
    rw [if_neg hlt, if_neg hnat, UInt8.toNat_sub, toNat_narrowed hlt]
    omega

/-! ## Decay -/

/-- As long as a counter is read less than a round of the minute counter after it was written, it
has lost a point for every period of the time in between, but for one minute where the minute
counter has started over. It falls as time goes on, a larger counter stays the larger one, a longer
period leaves more, and what is computed in words is the same, as no bit of the periods is lost. -/
theorem decayed_follows {m₀ m : Moment} (hle : m₀.seconds ≤ m.seconds)
    (hspan : m.seconds / 60 - m₀.seconds / 60 < Moment.minuteCount) (counter decayMinutes : Nat) :
    (0 < decayMinutes →
      (m₀.seconds / 60 / Moment.minuteCount = m.seconds / 60 / Moment.minuteCount →
        decayed m₀.minute counter m.minute decayMinutes
          = counter - min counter ((m.seconds / 60 - m₀.seconds / 60) / decayMinutes)) ∧
      (m₀.seconds / 60 / Moment.minuteCount ≠ m.seconds / 60 / Moment.minuteCount →
        decayed m₀.minute counter m.minute decayMinutes
          = counter - min counter ((m.seconds / 60 - m₀.seconds / 60 - 1) / decayMinutes))) ∧
    decayed m₀.minute counter m.minute 0 = counter ∧
    (∀ m' : Moment, m₀.seconds ≤ m'.seconds → m'.seconds ≤ m.seconds →
      decayed m₀.minute counter m.minute decayMinutes
        ≤ decayed m₀.minute counter m'.minute decayMinutes) ∧
    (∀ less, less ≤ counter → decayed m₀.minute less m.minute decayMinutes
      ≤ decayed m₀.minute counter m.minute decayMinutes) ∧
    (∀ shorter, 0 < shorter → shorter ≤ decayMinutes →
      decayed m₀.minute counter m.minute shorter
        ≤ decayed m₀.minute counter m.minute decayMinutes) ∧
    ∀ (c : UInt8) (d : UInt32),
      (decayedWord (.ofNat m₀.minute) c (.ofNat m.minute) d).toNat
        = decayed m₀.minute c.toNat m.minute d.toNat ∧
      (¬ c.toUInt32 < periodsWord (.ofNat m₀.minute) (.ofNat m.minute) d →
        (periodsWord (.ofNat m₀.minute) (.ofNat m.minute) d).toUInt8.toNat
          = periods m₀.minute m.minute d.toNat) := by
  have hfits (x : Moment) : (UInt16.ofNat x.minute).toNat = x.minute :=
    UInt16.toNat_ofNat_of_lt' x.minute_lt
  refine ⟨?_, ?_, ?_, ?_, ?_, ?_⟩
  · intro _
    refine ⟨fun hsame => ?_, fun hother => ?_⟩
    · rw [decayed_minutes hle hspan, told, if_pos hsame]
    · rw [decayed_minutes hle hspan, told, if_neg hother]
  · rw [decayed_minutes hle hspan, Nat.div_zero]
    omega
  · intro m' hstart hend
    have hminutes : m'.seconds / 60 ≤ m.seconds / 60 := Nat.div_le_div_right hend
    have htold := told_le_told (n := Moment.minuteCount) (Nat.le_refl _)
      (Nat.div_le_div_right hstart) hminutes
    have hperiods := Nat.div_le_div_right (c := decayMinutes) htold
    rw [decayed_minutes hle hspan, decayed_minutes hstart (by omega)]
    omega
  · intro less hless
    rw [decayed_minutes hle hspan, decayed_minutes hle hspan]
    omega
  · intro shorter hpos hshorter
    have hperiods := Nat.div_le_div_left
      (a := told Moment.minuteCount (m₀.seconds / 60) (m.seconds / 60)) hshorter hpos
    rw [decayed_minutes hle hspan, decayed_minutes hle hspan]
    omega
  · intro c d
    refine ⟨?_, fun hoff => ?_⟩
    · rw [toNat_decayedWord, hfits, hfits]
    · rw [toNat_narrowed hoff, toNat_periodsWord, hfits, hfits]

/-- A counter of 200 that is read a hundred and one minutes later, after the minute counter has
started over. -/
theorem decayed_follows_restarted :
    (3932100 ≤ 3938160 ∧ 3938160 / 60 - 3932100 / 60 < Moment.minuteCount) ∧
    decayed (Moment.mk 3932100).minute 200 (Moment.mk 3938160).minute 7 = 186 ∧
    (∀ m' : Moment, 3932100 ≤ m'.seconds → m'.seconds ≤ 3938160 →
      186 ≤ decayed (Moment.mk 3932100).minute 200 m'.minute 7) := by
  have hle : 3932100 ≤ 3938160 := by decide
  have hspan : 3938160 / 60 - 3932100 / 60 < Moment.minuteCount := by decide
  obtain ⟨hexact, -, hmono, -⟩ :=
    decayed_follows (show (Moment.mk 3932100).seconds ≤ (Moment.mk 3938160).seconds from hle) hspan
      200 7
  have hleft : decayed (Moment.mk 3932100).minute 200 (Moment.mk 3938160).minute 7 = 186 :=
    ((hexact (by decide)).2 (by decide)).trans (by decide)
  refine ⟨⟨hle, hspan⟩, hleft, ?_⟩
  intro m' hstart hend
  exact hleft ▸ hmono m' hstart hend

end SampledEviction.Frequency
