import SampledEviction.Proofs.Books
import SampledEviction.Proofs.Shelf

/-!
# Telling of deletions

Replicas follow a server by the deletions that it is told of. A check that fails, because usage
cannot be read, should leave none of its deletions untold.

* `propagated_iff_of_error` — it leaves one untold exactly if the reading right after a deletion
  is the one that fails
* `exists_error_not_propagated` — there is such a check
-/

namespace SampledEviction.Evictor

open Deed

variable {σ : Type} {fuel rounds : Nat} {d : Dataset σ} {server : Server σ} {clock : Clock σ}
  {s : Scene σ} {r : CheckResult σ}

/-- Every key that a check deleted was told of, once and in order, and counted. -/
def Propagated (s : Scene σ) (r : CheckResult σ) (deeds : List (Deed σ)) : Prop :=
  tellings deeds = removals deeds ∧
    r.scene.evictor.stats.evictedKeys = s.evictor.stats.evictedKeys + (removals deeds).length

/-- A check that lacks one deletion: it is neither told of nor counted. -/
def LacksOne (s : Scene σ) (r : CheckResult σ) (deeds : List (Deed σ)) : Prop :=
  (∃ v, removals deeds = v :: tellings deeds) ∧
    r.scene.evictor.stats.evictedKeys = s.evictor.stats.evictedKeys + (tellings deeds).length

theorem LacksOne.not_propagated {deeds : List (Deed σ)} (h : LacksOne s r deeds) :
    ¬ Propagated s r deeds := by
  rintro ⟨htold, -⟩
  obtain ⟨⟨v, hv⟩, -⟩ := h
  have hlength := congrArg List.length hv
  rw [htold, List.length_cons] at hlength
  omega

/-- What a failed check leaves: all its deletions told, or, where it breaks off right after a
deletion, all but that one. -/
theorem error_cases (h : ensureWithin fuel rounds d server clock s = some r)
    {e : EvictionError} (he : r.answer = .error e) :
    (¬ CutShort (ledger fuel rounds d server clock s) ∧
        Propagated s r (ledger fuel rounds d server clock s)) ∨
      (CutShort (ledger fuel rounds d server clock s) ∧
        LacksOne s r (ledger fuel rounds d server clock s)) := by
  obtain ⟨r', hr', rfl, hledger⟩ := exists_recorded h
  rw [hledger]
  cases ensureWithin_end hr' with
  | guarded => cases he
  | within => cases he
  | forbidden => cases he
  | unread hlook =>
    refine Or.inl ?_
    cases hlook with
    | unread e => exact ⟨not_false, rfl, rfl⟩
  | ran hguard hstart hlook hend hkeys =>
    cases he
    cases hend with
    | unread hbooks hcut => exact Or.inl ⟨hcut, hbooks.told, hkeys.trans hbooks.counted⟩
    | cutShort hlacking hcut =>
      exact Or.inr ⟨hcut, hlacking.untold, hkeys.trans hlacking.counted⟩
    | waited hbooks deeds hpolls hfreed hwait =>
      -- a wait deletes nothing, so its last deed follows no deletion
      refine Or.inl ⟨?_, hbooks.told, hkeys.trans hbooks.counted⟩
      generalize Recorded.deeds _ = final at hwait ⊢
      cases hwait with
      | unread e n rest hrest => exact not_false

/-- A failed check leaves a deletion untold and uncounted exactly if it breaks off right after
a deletion, at a reading that fails; then it is that one deletion. -/
theorem propagated_iff_of_error (h : ensureWithin fuel rounds d server clock s = some r)
    {e : EvictionError} (he : r.answer = .error e) :
    (Propagated s r (ledger fuel rounds d server clock s) ↔
        ¬ CutShort (ledger fuel rounds d server clock s)) ∧
      (CutShort (ledger fuel rounds d server clock s) →
        LacksOne s r (ledger fuel rounds d server clock s)) := by
  rcases error_cases h he with ⟨hcut, hall⟩ | ⟨hcut, hlacks⟩
  · exact ⟨iff_of_true hall hcut, fun hcut' => absurd hcut' hcut⟩
  · exact ⟨iff_of_false hlacks.not_propagated (not_not_intro hcut), fun _ => hlacks⟩

/-- A check that fails at the reading before its second deletion. -/
theorem propagated_failing_three :
    ensureWithin 5 2 Shelf.dataset Shelf.server Shelf.clock (Shelf.failing 3)
        = some (Shelf.check (Shelf.failing 3)) ∧
      (Shelf.check (Shelf.failing 3)).answer = .error (.memoryUnavailable "gone") ∧
      (Propagated (Shelf.failing 3) (Shelf.check (Shelf.failing 3))
          (ledger 5 2 Shelf.dataset Shelf.server Shelf.clock (Shelf.failing 3)) ↔
        ¬ CutShort (ledger 5 2 Shelf.dataset Shelf.server Shelf.clock (Shelf.failing 3))) := by
  have hr := Shelf.ensureWithin_eq (s := Shelf.failing 3) (by decide +kernel)
  have he : (Shelf.check (Shelf.failing 3)).answer = .error (.memoryUnavailable "gone") := by
    decide +kernel
  exact ⟨hr, he, (propagated_iff_of_error hr he).1⟩

/-- Not every failed check told of all its deletions: usage is read before the first of them
and cannot be read after it. -/
theorem exists_error_not_propagated :
    ¬ ∀ (σ : Type) (fuel rounds : Nat) (d : Dataset σ) (server : Server σ) (clock : Clock σ)
      (s : Scene σ) (r : CheckResult σ) (e : EvictionError),
      ensureWithin fuel rounds d server clock s = some r → r.answer = .error e →
        Propagated s r (ledger fuel rounds d server clock s) := by
  intro h
  have hr := Shelf.ensureWithin_eq (s := Shelf.failing 2) (by decide +kernel)
  have he : (Shelf.check (Shelf.failing 2)).answer = .error (.memoryUnavailable "gone") := by
    decide +kernel
  have hall := h Shelf 5 2 Shelf.dataset Shelf.server Shelf.clock _ _ _ hr he
  exact absurd hall.1 (by decide +kernel)

end SampledEviction.Evictor
