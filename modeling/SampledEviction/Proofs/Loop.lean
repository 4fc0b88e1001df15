import SampledEviction.Loop

/-!
# Loops that end

* `exists_run` — a loop whose steps lower a measure ends within as many of them
* `Reaches.map`, `Reaches.exists_of_map` — the states of a loop under a map that its step commutes
  with
-/

namespace SampledEviction.Loop

variable {α β : Type} {step : α → Option (α ⊕ β)}

/-- The states that steps lead to. -/
inductive Reaches (step : α → Option (α ⊕ β)) : α → α → Prop where
  | refl (a : α) : Reaches step a a
  | head {a b c : α} (hstep : step a = some (.inl b)) (h : Reaches step b c) : Reaches step a c

/-- A loop ends if every step keeps an invariant and either answers or lowers a measure. The
answer is that of a state where the invariant holds. -/
theorem exists_run {I : α → Prop} (μ : α → Nat)
    (hstep : ∀ a, I a → (∃ b, step a = some (.inr b)) ∨
      ∃ a', step a = some (.inl a') ∧ I a' ∧ μ a' < μ a)
    {fuel : Nat} {a : α} (h : I a) (hfuel : μ a < fuel) :
    ∃ b a', run step fuel a = some b ∧ Reaches step a a' ∧ I a' ∧ step a' = some (.inr b) := by
  -- the measure is below the fuel all along, so the fuel does not run out
  induction fuel generalizing a with
  | zero => omega
  | succ fuel ih =>
    unfold run
    rcases hstep a h with ⟨b, hb⟩ | ⟨a₁, ha₁, hI, hlt⟩
    · exact ⟨b, a, by rw [hb], .refl a, h, hb⟩
    · obtain ⟨b, a', hrun, hreach, hI', hb⟩ := ih hI (by omega)
      exact ⟨b, a', by rw [ha₁]; exact hrun, .head ha₁ hreach, hI', hb⟩

/-- The states of a loop are mapped to those of another, if the steps are. -/
theorem Reaches.map {α' β' : Type} {step' : α' → Option (α' ⊕ β')} {f : α' → α} {g : β' → β}
    (h : ∀ a, step (f a) = (step' a).map (Sum.map f g)) {a c : α'} (hreach : Reaches step' a c) :
    Reaches step (f a) (f c) := by
  induction hreach with
  | refl a => exact .refl _
  | head hstep _ ih =>
    refine .head ?_ ih
    rw [h, hstep]
    rfl

/-- A loop under such a map reaches nothing but images. -/
theorem Reaches.exists_of_map {α' β' : Type} {step' : α' → Option (α' ⊕ β')} {f : α' → α}
    {g : β' → β} (h : ∀ a, step (f a) = (step' a).map (Sum.map f g)) {a : α'} {c : α}
    (hreach : Reaches step (f a) c) : ∃ c', Reaches step' a c' ∧ f c' = c := by
  generalize ha : f a = b at hreach
  induction hreach generalizing a with
  | refl b => exact ⟨a, .refl a, ha⟩
  | head hstep _ ih =>
    subst ha
    rw [h] at hstep
    obtain ⟨x, hx, hmap⟩ := Option.map_eq_some_iff.mp hstep
    cases x with
    | inl a₁ =>
      obtain ⟨c', hreach, hc⟩ := ih (Sum.inl.inj hmap)
      exact ⟨c', .head hx hreach, hc⟩
    | inr y => cases hmap

/-- What every step keeps holds of all states that are reached. -/
theorem Reaches.keeps {I : α → Prop} (hstep : ∀ a b, I a → step a = some (.inl b) → I b)
    {a c : α} (h : I a) (hreach : Reaches step a c) : I c := by
  induction hreach with
  | refl _ => exact h
  | head hnext _ ih => exact ih (hstep _ _ h hnext)

end SampledEviction.Loop
