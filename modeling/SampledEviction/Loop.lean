/-!
# Loops

A loop is a step that is taken until it answers. Nothing promises that it ever does, so the
number of steps is bounded; running out of them is no answer.

* `run_add` — an answer stays when more steps are allowed
* `run_induct` — what holds at the start and is kept by a step is there at the answer
-/

namespace SampledEviction.Loop

/-- Takes at most `fuel` steps; `inl` is a state to go on from, `inr` an answer. -/
def run {α β : Type} (step : α → Option (α ⊕ β)) : Nat → α → Option β
  | 0, _ => none
  | fuel + 1, a =>
    match step a with
    | none => none
    | some (.inl a) => run step fuel a
    | some (.inr b) => some b

variable {α β : Type} {step : α → Option (α ⊕ β)}

/-- An answer stays when more steps are allowed. -/
theorem run_add {fuel : Nat} {a : α} {b : β} (h : run step fuel a = some b) (more : Nat) :
    run step (fuel + more) a = some b := by
  induction fuel generalizing a with
  | zero => simp [run] at h
  | succ fuel ih =>
    rw [Nat.add_right_comm, run]
    rw [run] at h
    cases hs : step a with
    | none => simp [hs] at h
    | some r =>
      cases r with
      | inl a' => simp only [hs] at h ⊢; exact ih h
      | inr b' => simpa only [hs] using h

/-- What a step keeps is there at the answer. -/
theorem run_induct {I : α → Prop} {P : β → Prop}
    (hstep : ∀ a a', I a → step a = some (.inl a') → I a')
    (hdone : ∀ a b, I a → step a = some (.inr b) → P b) {fuel : Nat} {a : α} {b : β} (ha : I a)
    (h : run step fuel a = some b) : P b := by
  induction fuel generalizing a with
  | zero => simp [run] at h
  | succ fuel ih =>
    rw [run] at h
    cases hs : step a with
    | none => simp [hs] at h
    | some r =>
      cases r with
      | inl a' => exact ih (hstep _ _ ha hs) (by simpa only [hs] using h)
      | inr b' =>
        simp only [hs, Option.some.injEq] at h
        exact h ▸ hdone _ _ ha hs

end SampledEviction.Loop
