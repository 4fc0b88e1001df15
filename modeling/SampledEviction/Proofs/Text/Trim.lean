import Mathlib.Data.List.DropRight
import SampledEviction.Text.Blank

/-!
# Trimming

A text is trimmed by taking off the white space at both of its ends. What is left is told by two
facts: nothing but white space was taken off, and no white space is left at an end.

* `trim_eq_iff` — what is left of a text
-/

namespace SampledEviction.Text

variable {s t : List Char}

/-- A text is what is left of another without the white space at its ends. -/
structure Trimmed (s t : List Char) : Prop where
  exists_blanks : ∃ before after, s = before ++ t ++ after ∧
    (∀ c ∈ before, isBlank c = true) ∧ ∀ c ∈ after, isBlank c = true
  head : ∀ c ∈ t.head?, isBlank c = false
  last : ∀ c ∈ t.getLast?, isBlank c = false

theorem trimRight_eq_rdropWhile (s : List Char) : trimRight s = s.rdropWhile isBlank := rfl

/-! ## What is taken off -/

theorem dropBlanks_append {before : List Char} (h : ∀ c ∈ before, isBlank c = true)
    (ht : ∀ c ∈ t.head?, isBlank c = false) : (before ++ t).dropWhile isBlank = t := by
  rw [List.dropWhile_append_of_pos h]
  cases t with
  | nil => rfl
  | cons c rest => simp [ht c rfl]

theorem trimRight_append {after : List Char} (h : ∀ c ∈ after, isBlank c = true)
    (ht : ∀ c ∈ t.getLast?, isBlank c = false) : trimRight (t ++ after) = t := by
  have hblanks : ∀ c ∈ after.reverse, isBlank c = true := fun c hc => h c (List.mem_reverse.mp hc)
  have hlast : ∀ c ∈ t.reverse.head?, isBlank c = false := by
    rw [List.head?_reverse]
    exact ht
  rw [trimRight, List.reverse_append, dropBlanks_append hblanks hlast, List.reverse_reverse]

theorem Trimmed.trim_eq (h : Trimmed s t) : trim s = t := by
  obtain ⟨before, after, rfl, hbefore, hafter⟩ := h.exists_blanks
  cases t with
  | nil =>
    -- all of the text is white space, and nothing says where the one end begins
    have hall : ∀ c ∈ before ++ after, isBlank c = true := fun c hc =>
      (List.mem_append.mp hc).elim (hbefore c) (hafter c)
    have hnone := dropBlanks_append (t := []) hall (by simp)
    rw [List.append_nil] at hnone ⊢
    rw [trim, hnone]
    rfl
  | cons c rest =>
    have hhead : ∀ x ∈ (c :: rest ++ after).head?, isBlank x = false := h.head
    rw [trim, List.append_assoc, dropBlanks_append hbefore hhead, trimRight_append hafter h.last]

/-! ## What is left -/

theorem trimmed_trim (s : List Char) : Trimmed s (trim s) where
  exists_blanks := by
    refine ⟨s.takeWhile isBlank, (s.dropWhile isBlank).rtakeWhile isBlank, ?_,
      fun c hc => List.mem_takeWhile_imp hc, fun c hc => List.mem_rtakeWhile_imp hc⟩
    rw [List.append_assoc, trim, trimRight_eq_rdropWhile, List.rdropWhile_append_rtakeWhile,
      List.takeWhile_append_dropWhile]
  head := by
    intro c hc
    have hfirst : (s.dropWhile isBlank).head? = some c := by
      rw [← List.rdropWhile_append_rtakeWhile (p := isBlank) (l := s.dropWhile isBlank),
        List.head?_append, ← trimRight_eq_rdropWhile, ← trim, Option.mem_def.mp hc]
      rfl
    have hnot := List.head?_dropWhile_not isBlank s
    rw [hfirst] at hnot
    exact hnot
  last := by
    intro c hc
    obtain ⟨hne, hlast⟩ := List.mem_getLast?_eq_getLast hc
    have hnot := List.rdropWhile_last_not isBlank (s.dropWhile isBlank) hne
    rw [hlast]
    exact (Bool.not_eq_true _).mp hnot

/-- A text is trimmed to what is left of it without the white space at its ends. -/
theorem trim_eq_iff : trim s = t ↔ Trimmed s t :=
  ⟨fun h => h ▸ trimmed_trim s, Trimmed.trim_eq⟩

/-- A text without white space is left as it is. -/
theorem trim_of_forall (h : ∀ c ∈ t, isBlank c = false) : trim t = t :=
  Trimmed.trim_eq ⟨⟨[], [], by simp⟩, fun c hc => h c (List.mem_of_mem_head? hc), fun c hc =>
    h c (List.mem_of_getLast? hc)⟩

end SampledEviction.Text
