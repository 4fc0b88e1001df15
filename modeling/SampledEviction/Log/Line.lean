import SampledEviction.Benchmark.Settings
import SampledEviction.Event
import SampledEviction.Log.Decimal

/-!
# Lines of a log

An event is written on one line: as an object in JSON, or as text in colours. What comes with
it, such as the time, is a matter of settings.
-/

namespace SampledEviction.Line

open Benchmark (Logging)

/-! ## The time -/

/-- A number with leading zeros. -/
def padded (width n : Nat) : String :=
  let digits := toString n
  "".pushn '0' (width - digits.length) ++ digits

/--
Year, month and day of a day counted from the first of January 1970.

Years are taken to begin in March, so that the leap day is the last of a year; 400 such years
have 146097 days.
-/
def civil (day : Nat) : Nat × Nat × Nat :=
  let day := day + 719468
  let era := day / 146097
  let dayOfEra := day % 146097
  let year := (dayOfEra - dayOfEra / 1460 + dayOfEra / 36524 - dayOfEra / 146096) / 365
  let dayOfYear := dayOfEra - (365 * year + year / 4 - year / 100)
  let month := (5 * dayOfYear + 2) / 153
  let dayOfMonth := dayOfYear - (153 * month + 2) / 5 + 1
  if month < 10 then (era * 400 + year, month + 3, dayOfMonth)
  else (era * 400 + year + 1, month - 9, dayOfMonth)

/-- A time in microseconds since the first of January 1970. -/
def timestamp (micros : Nat) : String :=
  let seconds := micros / 1000000
  let (year, month, day) := civil (seconds / 86400)
  let rest := seconds % 86400
  padded 4 year ++ "-" ++ padded 2 month ++ "-" ++ padded 2 day ++ "T"
    ++ padded 2 (rest / 3600) ++ ":" ++ padded 2 (rest / 60 % 60) ++ ":" ++ padded 2 (rest % 60)
    ++ "." ++ padded 6 (micros % 1000000) ++ "Z"

/-! ## JSON -/

/-- A hexadecimal digit in lower case. -/
def hexDigit (n : Nat) : Char := if n < 10 then Char.ofNat (0x30 + n) else Char.ofNat (0x57 + n)

/-- A character within a string. -/
def escape (c : Char) : String :=
  match c with
  | '"' => "\\\""
  | '\\' => "\\\\"
  | '\n' => "\\n"
  | '\r' => "\\r"
  | '\t' => "\\t"
  | c =>
    if c.toNat < 0x20 then
      "\\u00" ++ String.ofList [hexDigit (c.toNat / 16), hexDigit (c.toNat % 16)]
    else String.singleton c

/-- A string. -/
def quote (s : String) : String := "\"" ++ String.join (s.toList.map escape) ++ "\""

/-- A value. -/
def jsonValue : EventValue → String
  | .text s => quote s
  | .count n => toString n
  | .flag b => toString b
  | .single x => Decimal.write x.toFloat
  | .double x => Decimal.write x

/-- An object of names and values that are already written. -/
def object (members : List (String × String)) : String :=
  "\x7b" ++ ",".intercalate (members.map fun m => quote m.1 ++ ":" ++ m.2) ++ "\x7d"

/-- An event as an object. -/
def json (l : Logging) (micros : Nat) (e : Event) : String :=
  let fields := ("message", quote e.message) :: e.fields.map fun f => (f.1, jsonValue f.2)
  object <|
    (if l.timestamps then [("timestamp", quote (timestamp micros))] else [])
      ++ [("level", quote e.level.name), ("fields", object fields)]
      ++ (if l.target then [("target", quote e.target)] else [])
      ++ (if l.threadNames then [("threadName", quote e.thread)] else [])

/-! ## Text -/

/-- A text between the start and the end of a rendition. -/
def styled (code text : String) : String := "\x1b[" ++ code ++ "m" ++ text ++ "\x1b[0m"

/-- A faint text. -/
def faint (text : String) : String := styled "2" text

/-- The name of a level in its colour. -/
def levelText : Level → String
  | .error => styled "31" "ERROR"
  | .warn => styled "33" " WARN"
  | .info => styled "32" " INFO"
  | .debug => styled "34" "DEBUG"
  | .trace => styled "35" "TRACE"

/-- A value. -/
def valueText : EventValue → String
  | .text s => s
  | v => jsonValue v

/-- An event as text. -/
def text (l : Logging) (micros : Nat) (e : Event) : String :=
  " ".intercalate <|
    (if l.timestamps then [faint (timestamp micros)] else [])
      ++ [levelText e.level]
      ++ (if l.threadNames then [e.thread] else [])
      ++ (if l.target then [faint e.target ++ faint ":"] else [])
      ++ [e.message]
      ++ e.fields.map fun f => styled "3" f.1 ++ faint "=" ++ valueText f.2

/-- An event in the format of the settings. -/
def render (l : Logging) (micros : Nat) (e : Event) : String :=
  match l.format with
  | .json => json l micros e
  | .pretty | .compact => text l micros e

end SampledEviction.Line
