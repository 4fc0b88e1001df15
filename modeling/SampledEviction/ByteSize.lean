import SampledEviction.Text.Blank
import SampledEviction.Text.Case
import SampledEviction.Word

/-!
# Sizes in bytes

A size is written as a decimal number and a unit: `1024`, `64MB`, `4 gb`, `1KiB`. Units are
powers of 1024, and their case does not matter. A size has to fit into 64 bits.
-/

namespace SampledEviction.ByteSize

/-- Why a text is not a size. -/
inductive Fault where
  /-- Nothing but white space. -/
  | empty
  /-- The part before the unit is not a number of 64 bits. -/
  | badNumber (text : String)
  /-- The part after the number, in upper case, is not a unit. -/
  | unknownUnit (text : String)
  /-- The number of bytes exceeds 64 bits. -/
  | overflow
  deriving DecidableEq, Repr

/-- The wording of a fault. -/
def Fault.message : Fault → String
  | .empty => "empty size string"
  | .badNumber text => "invalid number: " ++ text
  | .unknownUnit text => "unknown size suffix: " ++ text
  | .overflow => "size overflow"

/-! ## Numbers -/

/-- The value of a digit of ASCII. -/
def digit? (c : Char) : Option Nat :=
  if '0' ≤ c ∧ c ≤ '9' then some (c.toNat - '0'.toNat) else none

/-- The value of a text of digits that goes on from `value`. -/
def digitsFrom? (value : Nat) : List Char → Option Nat
  | [] => some value
  | c :: rest => do digitsFrom? (value * 10 + (← digit? c)) rest

/-- The value of a text of one or more digits. -/
def digits? : List Char → Option Nat
  | [] => none
  | s => digitsFrom? 0 s

/-- The value of digits with an optional plus sign. -/
def number? (s : List Char) : Option Nat :=
  (digits? (if s.head? = some '+' then s.tail else s)).filter (· < Word.modulus)

/-! ## Units -/

/-- The factor between two units. -/
def kibi : Nat := 1024

/-- The number of bytes in a unit, which is written in upper case. -/
def unit? : String → Option Nat
  | "" | "B" => some 1
  | "K" | "KB" | "KIB" => some kibi
  | "M" | "MB" | "MIB" => some (kibi * kibi)
  | "G" | "GB" | "GIB" => some (kibi * kibi * kibi)
  | "T" | "TB" | "TIB" => some (kibi * kibi * kibi * kibi)
  | _ => none

/-! ## Sizes -/

/--
The number of bytes that a text stands for.

The unit begins at the first letter. A fault of the number is told before one of the unit.
-/
def parse (s : String) : Except Fault Nat :=
  let text := Text.trim s.toList
  if text.isEmpty then .error .empty
  else
    let (number, unit) := text.span fun c => !Text.isAlphabetic c
    match number? (Text.trim number) with
    | none => .error (.badNumber (String.ofList number))
    | some n =>
      let unit := String.ofList (Text.upper unit)
      match unit? unit with
      | none => .error (.unknownUnit unit)
      | some m => if n * m < Word.modulus then .ok (n * m) else .error .overflow

end SampledEviction.ByteSize
