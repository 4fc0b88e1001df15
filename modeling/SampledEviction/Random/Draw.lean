import SampledEviction.Bytes
import SampledEviction.Random.Xoshiro
import SampledEviction.Word

/-!
# Draws

What the words of a generator are turned into: a number below a bound, a point of the unit
interval, a string of bytes.

* `drawBelow_lt` — a draw below `n` is below `n`, whatever the generator puts out
-/

namespace SampledEviction

/-! ## Bounded draws -/

/--
Multiply and divide: the quotient of `draw * n` for a draw below `range`.

The remainder tells when the plain quotient would be biased; a second draw then decides
whether it is raised by one.
-/
def drawBelow {γ : Type} (range : Nat) (draw : γ → Nat × γ) (n : Nat) (g : γ) : Nat × γ :=
  let (x, g) := draw g
  let quotient := x * n / range
  let rest := x * n % range
  if range - n < rest then
    let (y, g) := draw g
    (quotient + (rest + y * n / range) / range, g)
  else
    (quotient, g)

/-- A draw below `n` is below `n`, if the single draws are below `range`. -/
theorem drawBelow_lt {γ : Type} {range n : Nat} {draw : γ → Nat × γ} (hn : 0 < n)
    (hdraw : ∀ g, (draw g).1 < range) (g : γ) : (drawBelow range draw n g).1 < n := by
  have hr : 0 < range := Nat.lt_of_le_of_lt (Nat.zero_le _) (hdraw g)
  have below (g : γ) : (draw g).1 * n < n * range := by
    rw [Nat.mul_comm]
    exact Nat.mul_lt_mul_of_pos_left (hdraw g) hn
  simp only [drawBelow]
  split
  · have hx : (draw g).1 * n ≤ (range - 1) * n :=
      Nat.mul_le_mul_right n (Nat.le_sub_one_of_lt (hdraw g))
    have hy : (draw (draw g).2).1 * n / range < n :=
      (Nat.div_lt_iff_lt_mul hr).mpr (below _)
    have hsplit := Nat.div_add_mod ((draw g).1 * n) range
    have hall : (range - 1) * n + n = n * range := by
      rw [Nat.sub_mul, Nat.one_mul, Nat.sub_add_cancel (Nat.le_mul_of_pos_left n hr),
        Nat.mul_comm]
    calc (draw g).1 * n / range
          + ((draw g).1 * n % range + (draw (draw g).2).1 * n / range) / range
        = ((draw g).1 * n + (draw (draw g).2).1 * n / range) / range := by
          conv => rhs; rw [← hsplit, Nat.add_assoc, Nat.mul_add_div hr]
      _ < n := by
          rw [Nat.div_lt_iff_lt_mul hr]
          omega
  · exact (Nat.div_lt_iff_lt_mul hr).mpr (below g)

namespace Xoshiro

/-- A full word as a number. -/
def next64 (g : Xoshiro) : Nat × Xoshiro := (g.word.toNat, g.step)

/-- The high half of a word as a number. -/
def next32 (g : Xoshiro) : Nat × Xoshiro := (g.word.toNat / Word.halfModulus, g.step)

theorem next64_lt (g : Xoshiro) : g.next64.1 < Word.modulus := g.word.toNat_lt

theorem next32_lt (g : Xoshiro) : g.next32.1 < Word.halfModulus := by
  have := g.next64_lt
  simp only [next64, next32, Word.modulus, Word.halfModulus] at this ⊢
  omega

/-- A number below `n`: half a word is enough where `n` fits into one. -/
def below (n : Nat) (g : Xoshiro) : Nat × Xoshiro :=
  if n < Word.halfModulus then drawBelow Word.halfModulus next32 n g
  else drawBelow Word.modulus next64 n g

theorem below_lt {n : Nat} (hn : 0 < n) (g : Xoshiro) : (g.below n).1 < n := by
  unfold below
  split
  · exact drawBelow_lt hn next32_lt g
  · exact drawBelow_lt hn next64_lt g

/-! ## The unit interval -/

/-- A multiple of `2 ^ -53` in `[0, 1)`: the high 53 bits of a word. -/
def unit (g : Xoshiro) : Float × Xoshiro :=
  ((g.word >>> 11).toFloat * Float.scaleB 1.0 (-53), g.step)

/-! ## Bytes -/

/-- The first `n` bytes of a word, lowest first. -/
def lowBytes (n : Nat) (x : UInt64) : List UInt8 :=
  (List.range n).map fun i => (x >>> (8 * UInt64.ofNat i)).toUInt8

/--
A string of `n` bytes, eight to a word. A rest of five to seven bytes takes the low bytes of
one more word, a shorter rest those of the high half of one.
-/
def bytes (n : Nat) (g : Xoshiro) : Bytes × Xoshiro :=
  let rec words : Nat → Xoshiro → Array UInt8 → Array UInt8 × Xoshiro
    | 0, g, out => (out, g)
    | k + 1, g, out => words k g.step (out ++ lowBytes 8 g.word)
  let (out, g) := words (n / 8) g #[]
  let rest := n % 8
  if rest = 0 then (⟨out⟩, g)
  else if rest ≤ 4 then (⟨out ++ lowBytes rest (g.word >>> 32)⟩, g.step)
  else (⟨out ++ lowBytes rest g.word⟩, g.step)

end Xoshiro

end SampledEviction
