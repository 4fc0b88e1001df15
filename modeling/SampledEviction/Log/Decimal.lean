/-!
# Decimal notation

The shortest decimal notation of a floating-point number that reads back as that number.

Digits are found by trying: a number is rounded to one digit, to two, and so on, until what is
read back is the number. Seventeen digits are always enough for double precision.
-/

namespace SampledEviction.Decimal

/-- A positive number as a mantissa and a power of two. -/
structure Binary where
  mantissa : Nat
  exponent : Int

/-- The number of fractions that a number of double precision can have, `2 ^ 52`. -/
def fractionCount : Nat := 0x10_0000_0000_0000

/-- A power of ten. -/
def powerOfTen (n : Nat) : Nat := Nat.pow 10 n

/-- The exact value of a positive finite number. -/
def Binary.ofFloat (x : Float) : Binary :=
  let bits := x.toBits.toNat
  let fraction := bits % fractionCount
  let power := bits / fractionCount % 0x800
  if power = 0 then ⟨fraction, -1074⟩ else ⟨fractionCount + fraction, Int.ofNat power - 1075⟩

/-- A mantissa and a power of ten. -/
structure Scientific where
  mantissa : Nat
  exponent : Int

/-- The numerator and the denominator of a product with a power of ten. -/
def Binary.scaled (b : Binary) (power : Int) : Nat × Nat :=
  (b.mantissa <<< b.exponent.toNat * powerOfTen power.toNat,
    1 <<< (-b.exponent).toNat * powerOfTen (-power).toNat)

/-- The power of ten of the first digit, which is searched for downwards from `start`. -/
def Binary.magnitude (b : Binary) : Nat → Int → Int
  | 0, power => power
  | fuel + 1, power =>
    let (n, d) := b.scaled (-power)
    if d ≤ n then power else b.magnitude fuel (power - 1)

/-- The number rounded to some digits, the first of which has a known power of ten. -/
def Binary.round (b : Binary) (digits : Nat) (magnitude : Int) : Scientific :=
  let exponent := magnitude - digits + 1
  let (n, d) := b.scaled (-exponent)
  ⟨(2 * n + d) / (2 * d), exponent⟩

/-- The number that a notation is read as. -/
def Scientific.toFloat (s : Scientific) : Float :=
  Float.ofScientific s.mantissa (s.exponent < 0) s.exponent.natAbs

/-- The shortest notation with `digits` digits or at most `more` more that reads back as `x`. -/
def Binary.shortest (b : Binary) (x : Float) (magnitude : Int) : Nat → Nat → Scientific
  | 0, digits => b.round digits magnitude
  | more + 1, digits =>
    let s := b.round digits magnitude
    if s.toFloat == x then s else b.shortest x magnitude more (digits + 1)

/-- A number without the zeros at its end, and how many there were. -/
def Scientific.trim (s : Scientific) : Nat → Scientific
  | 0 => s
  | fuel + 1 =>
    if s.mantissa % 10 = 0 ∧ s.mantissa ≠ 0 then
      Scientific.trim ⟨s.mantissa / 10, s.exponent + 1⟩ fuel
    else s

/-- A notation in full: at least one digit on both sides of the point. -/
def Scientific.text (s : Scientific) : String :=
  let s := s.trim 400
  if 0 ≤ s.exponent then
    toString (s.mantissa * powerOfTen s.exponent.toNat) ++ ".0"
  else
    let places := (-s.exponent).toNat
    let whole := s.mantissa / powerOfTen places
    let rest := toString (s.mantissa % powerOfTen places)
    toString whole ++ "." ++ "".pushn '0' (places - rest.length) ++ rest

/-- The shortest notation of a number. -/
def write (x : Float) : String :=
  if x.isNaN then "NaN"
  else if x.isInf then if x < 0 then "-inf" else "inf"
  else if x == 0.0 then "0.0"
  else
    let b := Binary.ofFloat x.abs
    let s := b.shortest x.abs (b.magnitude 700 309) 16 1
    (if x < 0 then "-" else "") ++ s.text

end SampledEviction.Decimal
