import SampledEviction.ByteSize
import SampledEviction.Log.Filter
import SampledEviction.Log.Pattern
import SampledEviction.Text.Slice

/-!
# Writing filters

A filter is written as directives between commas. A directive is a level, or a target that
brackets and an equals sign with a level may follow. In the brackets stand the name of a span
and, in braces, a field, which may have a value behind another equals sign. Events are not
spans: a directive with the name of a span or a value of a field is no rule for them.

The reader looks past blanks around a directive, yet it counts its places from the beginning
of the text. What it takes from a text that begins with blanks is shifted by them, and it may
come to cut a character in two; then there is no filter at all.

* `FilterText.filterOf_nil_enables` — without any directive errors are reported
-/

namespace SampledEviction

/-- Why a text is no directive. -/
inductive DirectiveFault where
  | malformed
  | badLevel
  /-- The value of a field is neither a number nor a pattern. -/
  | badValue
  /-- A part begins or ends within a character. -/
  | torn
  deriving DecidableEq, Repr

/-- The wording of a fault. -/
def DirectiveFault.message : DirectiveFault → String
  | .malformed => "invalid filter directive"
  | .badLevel =>
    "error parsing level filter: expected one of \"off\", \"error\", \"warn\", \"info\", "
      ++ "\"debug\", \"trace\", or a number 0-5"
  | .badValue => "invalid field filter: error building NFA"
  | .torn => "byte index is not a char boundary"

/-- What a text between commas says. -/
inductive Directive where
  | rule (r : FilterRule)
  /-- A rule about spans. -/
  | span
  deriving DecidableEq, Repr

namespace Directive

/-! ## Levels -/

/-- The verbosity of everything. -/
def everything : Nat := Level.trace.verbosity

/-- The number of a text of digits with an optional plus sign. -/
def levelNumber? (s : List Char) : Option Nat := (ByteSize.number? s).filter (· ≤ everything)

/-- The verbosity of a level, which is written as a number or a name. -/
def verbosity? (s : List Char) : Option Nat :=
  match levelNumber? s with
  | some n => some n
  | none =>
    match (String.ofList s).toLower with
    | "off" => some 0
    | "error" => some 1
    | "warn" => some 2
    | "info" => some 3
    | "debug" => some 4
    | "trace" => some 5
    | _ => none

/-! ## Fields -/

/-- A text without a sign in front. -/
def unsigned (s : List Char) : List Char :=
  if s.head? = some '+' ∨ s.head? = some '-' then s.tail else s

/-- Whether a text is a number: digits that may have a sign, a fraction and an exponent, or a
name of infinity or of no number. -/
def isNumber (s : List Char) : Bool :=
  let s := unsigned s
  let (whole, rest) := s.span Char.isDigit
  let (fraction, rest) := if rest.head? = some '.' then rest.tail.span Char.isDigit else ([], rest)
  ["inf", "infinity", "nan"].contains (String.ofList s).toLower
    || !(whole.isEmpty && fraction.isEmpty)
      && match rest with
        | [] => true
        | c :: r => (c == 'e' || c == 'E') && (ByteSize.digits? (unsigned r)).isSome

/-- A field, and whether it has a value. -/
structure Field where
  name : String
  valued : Bool
  deriving DecidableEq, Repr

/-- What stands between braces. -/
def field (s : List Char) : Except DirectiveFault Field :=
  if s.isEmpty then .error .malformed
  else
    match s.span (· != '=') with
    | (name, []) => .ok ⟨String.ofList name, false⟩
    | (name, _ :: rest) =>
      let value := rest.takeWhile (· != '=')
      if isNumber value || Pattern.isPattern value then .ok ⟨String.ofList name, true⟩
      else .error .badValue

/-! ## Directives -/

/-- Where the reader of a directive is; it keeps the place where a part begins. -/
inductive Place where
  | start
  /-- In a target or a level. -/
  | head (since : Nat)
  /-- Behind an opening bracket. -/
  | span (since : Nat)
  /-- Behind an opening brace. -/
  | field (since : Nat)
  /-- Behind a closing brace. -/
  | fieldEnd
  /-- Behind a closing bracket. -/
  | spanEnd
  /-- Behind an equals sign. -/
  | level (since : Nat)
  deriving DecidableEq, Repr

/-- A directive of which a part has been read. -/
structure Draft where
  place : Place := .start
  target : String := ""
  /-- Whether a span is named. -/
  named : Bool := false
  field : Option Field := none
  deriving DecidableEq, Repr

/-- A directive may start with a letter, a digit or one of some signs. -/
def mayStart (c : Char) : Bool := c == '-' || c == ':' || c == '_' || Text.isAlphanumeric c

/-- The part of a text between two places. -/
def slice (text : List Char) (start stop : Nat) : Except DirectiveFault (List Char) :=
  (Text.slice? start stop text).elim (.error .torn) .ok

/-- The text from a place on. -/
def rest (text : List Char) (start : Nat) : Except DirectiveFault (List Char) :=
  (Text.dropBytes? start text).elim (.error .torn) .ok

namespace Draft

/-- Reads the character at a place of the text. -/
def step (text : List Char) (i : Nat) (d : Draft) (c : Char) : Except DirectiveFault Draft := do
  match d.place, c with
  | .start, '[' => return { d with place := .span (i + 1) }
  | .start, c => if mayStart c then return { d with place := .head i } else throw .malformed
  | .head since, '=' =>
    return { d with target := String.ofList (← slice text since i), place := .level (i + 1) }
  | .head since, '[' =>
    return { d with target := String.ofList (← slice text since i), place := .span (i + 1) }
  | .span since, ']' =>
    let _ ← slice text since i
    return { d with named := true, place := .spanEnd }
  | .span since, '\x7b' =>
    return { d with named := !(← slice text since i).isEmpty, place := .field (i + 1) }
  | .field since, '\x7d' =>
    return { d with field := some (← Directive.field (← slice text since i)), place := .fieldEnd }
  | .fieldEnd, ']' => return { d with place := .spanEnd }
  | .spanEnd, '=' => return { d with place := .level (i + 1) }
  | .fieldEnd, _ | .spanEnd, _ => throw .malformed
  | _, _ => return d

/-- Reads characters from a place of the text on. -/
def walk (text : List Char) : Nat → Draft → List Char → Except DirectiveFault Draft
  | _, d, [] => .ok d
  | i, d, c :: r => do walk text (i + c.utf8Size) (← d.step text i c) r

/-- The directive with a verbosity. -/
def close (d : Draft) (verbosity : Nat) : Directive :=
  if d.named || d.field.any (·.valued) then .span
  else .rule { target := d.target, field := d.field.map (·.name), verbosity }

/-- The directive at the end of the text. A target without a level is reported in full. -/
def finish (text : List Char) (d : Draft) : Except DirectiveFault Directive := do
  match d.place with
  | .head since =>
    let head ← rest text since
    match verbosity? head with
    | some verbosity => return .rule { verbosity }
    | none => return .rule { target := String.ofList head, verbosity := everything }
  | .level since =>
    let level ← rest text since
    if level.isEmpty then return d.close everything
    match verbosity? level with
    | some verbosity => return d.close verbosity
    | none => throw .badLevel
  | .spanEnd => return d.close everything
  | _ => throw .malformed

end Draft

/-- Reads a directive. -/
def read (text : String) : Except DirectiveFault Directive := do
  let text := text.toList
  (← Draft.walk text 0 {} (Text.trim text)).finish text

end Directive

/-- A filter, and what is in its text besides. -/
structure FilterText where
  filter : Filter
  /-- The texts that are no directives. -/
  ignored : List (String × DirectiveFault)
  deriving DecidableEq, Repr

namespace FilterText

/-- The texts between commas that are not empty. -/
def parts (text : String) : List String := (text.splitOn ",").filter (· ≠ "")

/-- What the parts of a text say. -/
def directives (parts : List String) : List Directive :=
  parts.filterMap fun part => (Directive.read part).toOption

/-- The filter of some directives. Where there is none, errors are reported. -/
def filterOf (ds : List Directive) : Filter :=
  if ds.isEmpty then ⟨[{ verbosity := Level.error.verbosity }]⟩
  else ⟨ds.filterMap fun d => match d with | .rule r => some r | .span => none⟩

/-- Without any directive errors are reported, and nothing else. -/
theorem filterOf_nil_enables (e : Event) :
    (filterOf []).enables e = decide (e.level = Level.error) := by
  rw [filterOf, List.isEmpty_nil, if_pos rfl, Filter.enables_anywhere]
  cases e.level <;> rfl

/-- The parts that are no directives. -/
def faults (parts : List String) : List (String × DirectiveFault) :=
  parts.filterMap fun part =>
    match Directive.read part with
    | .error fault => some (part, fault)
    | .ok _ => none

/-- The filter that is written as a text, unless a character would have to be cut. -/
def read? (text : String) : Option FilterText :=
  let faults := faults (parts text)
  if faults.any (·.2 = .torn) then none
  else some ⟨filterOf (directives (parts text)), faults⟩

end FilterText

end SampledEviction
