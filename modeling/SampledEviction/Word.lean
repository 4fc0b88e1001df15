/-!
# 64-bit counters

Counts of bytes and milliseconds are natural numbers below `2 ^ 64`. The operations here
say what happens at that limit: a running counter wraps, a bound saturates, and a product that
must be exact is not formed.
-/

namespace SampledEviction.Word

/-- The number of values of a 64-bit counter, `2 ^ 64`. -/
def modulus : Nat := 0x1_0000_0000_0000_0000

/-- The largest value of a 64-bit counter. -/
def top : Nat := modulus - 1

/-- The number of values of a 32-bit counter, `2 ^ 32`. -/
def halfModulus : Nat := 0x1_0000_0000

/-- The value that a counter shows after counting to `n`. -/
def wrap (n : Nat) : Nat := n % modulus

/-- Addition on a running counter wraps around. -/
def add (a b : Nat) : Nat := wrap (a + b)

/-- Addition that stops at the largest value. -/
def saturatingAdd (a b : Nat) : Nat := min (a + b) top

/-- Multiplication that stops at the largest value. -/
def saturatingMul (a b : Nat) : Nat := min (a * b) top

/-- Multiplication that fails if the product is too large. -/
def mul? (a b : Nat) : Option Nat := if a * b < modulus then some (a * b) else none

theorem wrap_lt (n : Nat) : wrap n < modulus := Nat.mod_lt _ (by decide)

theorem wrap_of_lt {n : Nat} (h : n < modulus) : wrap n = n := Nat.mod_eq_of_lt h

theorem add_of_lt {a b : Nat} (h : a + b < modulus) : add a b = a + b := wrap_of_lt h

theorem mul?_of_lt {a b : Nat} (h : a * b < modulus) : mul? a b = some (a * b) := if_pos h

theorem mul?_of_not_lt {a b : Nat} (h : ¬ a * b < modulus) : mul? a b = none := if_neg h

end SampledEviction.Word
