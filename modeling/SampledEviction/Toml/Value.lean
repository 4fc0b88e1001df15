/-!
# TOML values

What a TOML document says. Numbers with a fraction and dates keep their spelling, as nothing
here computes with them.
-/

namespace SampledEviction.Toml

/-- A value of a TOML document. -/
inductive Value where
  | string (s : String)
  | integer (n : Int)
  | float (spelling : String)
  | boolean (b : Bool)
  | dateTime (spelling : String)
  | array (items : List Value)
  /-- Keys and values in the order of the document. -/
  | table (entries : List (String × Value))
  deriving Repr, Inhabited

/-- Reads something off the front of a text, and gives the rest; or it is not there. -/
abbrev Reader (α : Type) := List Char → Option (α × List Char)

/-! ## Characters -/

/-- Blanks within a line. -/
def isSpace (c : Char) : Bool := c == ' ' || c == '\t'

/-- Characters that may stand in a comment or a string: no control characters but the tab. -/
def isPlain (c : Char) : Bool := c == '\t' || (0x20 ≤ c.toNat && c.toNat != 0x7F)

def isDigit (c : Char) : Bool := '0' ≤ c && c ≤ '9'

def isLetter (c : Char) : Bool := ('a' ≤ c && c ≤ 'z') || ('A' ≤ c && c ≤ 'Z')

/-- Characters of a key without quotes. -/
def isBare (c : Char) : Bool := isLetter c || isDigit c || c == '_' || c == '-'

/-! ## Blanks and line ends -/

/-- The text behind blanks. -/
def skipSpaces (s : List Char) : List Char := s.dropWhile isSpace

/-- The text behind a line end. -/
def newline? : List Char → Option (List Char)
  | '\n' :: r => some r
  | '\r' :: '\n' :: r => some r
  | _ => none

/-- The text behind a comment, if there is one. -/
def skipComment : List Char → List Char
  | '#' :: r => r.dropWhile isPlain
  | s => s

/-- The text behind the end of a line, which may hold a comment; or the end of the text. -/
def lineEnd? (s : List Char) : Option (List Char) :=
  match skipComment (skipSpaces s) with
  | [] => some []
  | s => newline? s

/-- The text behind blanks, comments and line ends, in at most `fuel` lines. -/
def skipLines : Nat → List Char → List Char
  | 0, s => s
  | fuel + 1, s =>
    let s := skipComment (skipSpaces s)
    match newline? s with
    | some r => skipLines fuel r
    | none => s

/-- The text behind blanks, comments and line ends. -/
def skipBlank (s : List Char) : List Char := skipLines (s.length + 1) s

end SampledEviction.Toml
