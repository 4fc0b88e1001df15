import SampledEviction.Toml.Value

/-!
# Numbers and dates of TOML

These values are words: runs of letters, digits and a few marks. A word is read whole and then
told apart. Integers have 64 bits and a sign; floats and dates are checked, and keep their
spelling.
-/

namespace SampledEviction.Toml

/-! ## Digits -/

/-- The digits of a number, without the underscores that may stand between two digits. -/
def ungroup? (ok : Char → Bool) : List Char → Option (List Char)
  | [] => none
  | [c] => if ok c then some [c] else none
  | c :: '_' :: r => do if ok c then return c :: (← ungroup? ok r) else none
  | c :: r => do if ok c then return c :: (← ungroup? ok r) else none

/-- The value of a hexadecimal, octal or binary digit, or of a decimal one. -/
def digitValue (c : Char) : Nat :=
  if isDigit c then c.toNat - 0x30
  else if c.toNat < 0x60 then c.toNat - 0x41 + 10
  else c.toNat - 0x61 + 10

/-- The number that digits stand for. -/
def number (base : Nat) (digits : List Char) : Nat :=
  digits.foldl (fun n c => n * base + digitValue c) 0

def isHexDigit (c : Char) : Bool := isDigit c || ('a' ≤ c && c ≤ 'f') || ('A' ≤ c && c ≤ 'F')

/-- The digits of a decimal number, which has no leading zeros. -/
def decimal? (s : List Char) : Option (List Char) := do
  let digits ← ungroup? isDigit s
  if digits.length > 1 ∧ digits.head? = some '0' then none else some digits

/-- A word without its sign, and the sign. -/
def splitSign : List Char → Bool × List Char
  | '-' :: r => (true, r)
  | '+' :: r => (false, r)
  | s => (false, s)

/-! ## Integers -/

/-- The integer of 64 bits that a word stands for. -/
def integer? (s : List Char) : Option Int := do
  let n : Int ←
    match s with
    | '0' :: 'x' :: r => (ungroup? isHexDigit r).map fun d => (number 16 d : Int)
    | '0' :: 'o' :: r => (ungroup? (fun c => '0' ≤ c && c ≤ '7') r).map fun d => (number 8 d : Int)
    | '0' :: 'b' :: r => (ungroup? (fun c => '0' ≤ c && c ≤ '1') r).map fun d => (number 2 d : Int)
    | s =>
      let (negative, r) := splitSign s
      (decimal? r).map fun d => if negative then -(number 10 d : Int) else (number 10 d : Int)
  if -0x8000_0000_0000_0000 ≤ n ∧ n < 0x8000_0000_0000_0000 then some n else none

/-! ## Floats -/

/-- A number without a sign: digits, and the power of ten that the last of them counts. -/
structure Scientific where
  digits : List Char
  exponent : Int

/-- The exponent of a float, from its mark on. -/
def exponent? : List Char → Option Int
  | c :: r =>
    if c == 'e' || c == 'E' then
      let (negative, r) := splitSign r
      (ungroup? isDigit r).map fun d =>
        if negative then -(number 10 d : Int) else (number 10 d : Int)
    else none
  | [] => none

/-- A number with a fraction, an exponent or both. -/
def scientific? (s : List Char) : Option Scientific := do
  let (whole, r) := s.span fun c => isDigit c || c == '_'
  let whole ← decimal? whole
  match r with
  | '.' :: r =>
    let (fraction, r) := r.span fun c => isDigit c || c == '_'
    let fraction ← ungroup? isDigit fraction
    let exponent ← if r.isEmpty then some 0 else exponent? r
    return ⟨whole ++ fraction, exponent - fraction.length⟩
  | r => return ⟨whole, ← exponent? r⟩

/--
The smallest number that does not round to a float of 64 bits.

It lies halfway between the largest one, `(2^53 - 1) * 2^971`, and `2^1024`.
-/
def floatLimit : Nat := 0x3F_FFFF_FFFF_FFFF <<< 970

/--
Whether a number is too large for a float.

The limit has 309 digits, so the numbers of digits decide unless they are close; then the
powers of ten are no larger than the text is long.
-/
def Scientific.exceedsFloat (x : Scientific) : Bool :=
  let digits := x.digits.dropWhile (· == '0')
  let length := (digits.length : Int) + x.exponent
  if digits.isEmpty || length ≤ 308 then false
  else if 310 ≤ length then true
  else
    floatLimit * Nat.pow 10 (-x.exponent).toNat ≤ number 10 digits * Nat.pow 10 x.exponent.toNat

/-- Whether a word is a float. A negative one may be as large as it likes. -/
def isFloat (s : List Char) : Bool :=
  let (negative, s) := splitSign s
  s == ['i', 'n', 'f'] || s == ['n', 'a', 'n']
    || (scientific? s).any fun x => negative || !x.exceedsFloat

/-! ## Dates and times -/

/-- The number of two digits. -/
def twoDigits? (a b : Char) : Option Nat :=
  if isDigit a && isDigit b then some (number 10 [a, b]) else none

/-- The days of a month. -/
def daysIn (year month : Nat) : Nat :=
  if month = 2 then
    if year % 4 = 0 ∧ (year % 100 ≠ 0 ∨ year % 400 = 0) then 29 else 28
  else if month = 4 ∨ month = 6 ∨ month = 9 ∨ month = 11 then 30
  else 31

/-- The text behind a date. -/
def date? : List Char → Option (List Char)
  | a :: b :: c :: d :: '-' :: e :: f :: '-' :: g :: h :: r => do
    let year := 100 * (← twoDigits? a b) + (← twoDigits? c d)
    let month ← twoDigits? e f
    let day ← twoDigits? g h
    if 1 ≤ month ∧ month ≤ 12 ∧ 1 ≤ day ∧ day ≤ daysIn year month then some r else none
  | _ => none

/-- The text behind a time of day. -/
def time? : List Char → Option (List Char)
  | a :: b :: ':' :: c :: d :: ':' :: e :: f :: r => do
    let hour ← twoDigits? a b
    let minute ← twoDigits? c d
    let second ← twoDigits? e f
    if hour ≤ 23 ∧ minute ≤ 59 ∧ second ≤ 60 then
      match r with
      | '.' :: c :: r => if isDigit c then some (r.dropWhile isDigit) else none
      | '.' :: _ => none
      | r => some r
    else none
  | _ => none

/-- Whether a text is the offset of a time from that of Greenwich. -/
def isOffset : List Char → Bool
  | ['Z'] | ['z'] => true
  | [sign, a, b, ':', c, d] =>
    (sign == '+' || sign == '-') &&
      (twoDigits? a b).any (· ≤ 23) && (twoDigits? c d).any (· ≤ 59)
  | _ => false

/-- Whether a text is a time of day, possibly with an offset. -/
def isTimeOfDay (offset : Bool) (s : List Char) : Bool :=
  (time? s).any fun r => r.isEmpty || (offset && isOffset r)

/-- Whether a word is a date, a time, or both with a letter between them. -/
def isDateTime (s : List Char) : Bool :=
  isTimeOfDay false s ||
    (date? s).any fun
      | [] => true
      | c :: r => (c == 'T' || c == 't') && isTimeOfDay true r

/-! ## Words -/

/-- Characters of a word. -/
def isWordChar (c : Char) : Bool := isBare c || c == '+' || c == '.' || c == ':'

/-- The value of a word. -/
def wordValue? (s : List Char) : Option Value :=
  if s = ['t', 'r', 'u', 'e'] then some (.boolean true)
  else if s = ['f', 'a', 'l', 's', 'e'] then some (.boolean false)
  else
    match integer? s with
    | some n => some (.integer n)
    | none =>
      if isFloat s then some (.float (String.ofList s))
      else if isDateTime s then some (.dateTime (String.ofList s))
      else none

/-- A value that is a word, or a date and a time of day with a blank between them. -/
def word? : Reader Value := fun s =>
  let (word, r) := s.span isWordChar
  let time := r.tail.takeWhile isWordChar
  if r.head? = some ' ' ∧ (date? word) = some [] ∧ isTimeOfDay true time then
    some (.dateTime (String.ofList (word ++ ' ' :: time)), r.tail.dropWhile isWordChar)
  else (wordValue? word).map fun v => (v, r)

end SampledEviction.Toml
