import SampledEviction.Text.CodePoint
import SampledEviction.Toml.Value

/-!
# Strings and keys of TOML

Basic strings stand in double quotes and know escapes, literal strings stand in single quotes
and know none. Three quotes open a string that may go over several lines; up to two quotes
may stand right before the three that close it.

A reader of a string starts behind the quotes that open it. The recursions follow the text.
-/

namespace SampledEviction.Toml

/-! ## Escapes -/

/-- The character that a letter behind a backslash stands for. -/
def escape? : Char → Option Char
  | 'b' => some '\x08'
  | 't' => some '\t'
  | 'n' => some '\n'
  | 'f' => some '\x0c'
  | 'r' => some '\r'
  | '"' => some '"'
  | '\\' => some '\\'
  | _ => none

/-! ## Strings in one line -/

/-- The rest of a basic string, of which `done` has been read, backwards. -/
def basicString (done : List Char) : Reader String
  | '"' :: r => some (String.ofList done.reverse, r)
  | '\\' :: 'u' :: a :: b :: c :: d :: r => do
    basicString ((← Text.codePoint? [a, b, c, d]) :: done) r
  | '\\' :: 'U' :: a :: b :: c :: d :: e :: f :: g :: h :: r => do
    basicString ((← Text.codePoint? [a, b, c, d, e, f, g, h]) :: done) r
  | '\\' :: c :: r => do basicString ((← escape? c) :: done) r
  | c :: r => if isPlain c && c != '\\' then basicString (c :: done) r else none
  | [] => none

/-- The rest of a literal string. -/
def literalString (done : List Char) : Reader String
  | '\'' :: r => some (String.ofList done.reverse, r)
  | c :: r => if isPlain c then literalString (c :: done) r else none
  | [] => none

/-! ## Strings over several lines -/

/-- Where the reader of a basic string over several lines is. -/
inductive LineState where
  /-- Within text. -/
  | text
  /-- Behind a backslash that is followed by blanks, before the line end. -/
  | gap
  /-- Behind the line end of a gap. -/
  | nextLine
  deriving DecidableEq

/-- The end of a string over several lines, if the text begins with three to five quotes: the
quotes that still belong to the string, and the rest. -/
def closing? (quote : Char) : List Char → Option (List Char × List Char)
  | a :: b :: c :: d :: e :: r =>
    if a = quote ∧ b = quote ∧ c = quote then
      if d = quote then if e = quote then some ([quote, quote], r) else some ([quote], e :: r)
      else some ([], d :: e :: r)
    else none
  | [a, b, c, d] =>
    if a = quote ∧ b = quote ∧ c = quote then
      if d = quote then some ([quote], []) else some ([], [d])
    else none
  | [a, b, c] => if a = quote ∧ b = quote ∧ c = quote then some ([], []) else none
  | _ => none

/-- The rest of a basic string over several lines. -/
def basicLines (done : List Char) (state : LineState) : Reader String
  | [] => none
  | c :: r =>
    match state with
    | .gap =>
      if isSpace c then basicLines done .gap r
      else
        match c, r with
        | '\n', r => basicLines done .nextLine r
        | '\r', '\n' :: r => basicLines done .nextLine r
        | _, _ => none
    | state =>
      if state = .nextLine ∧ (isSpace c ∨ c = '\n') then basicLines done .nextLine r
      else
        match closing? '"' (c :: r) with
        | some (quotes, r) => some (String.ofList (quotes ++ done).reverse, r)
        | none =>
          match c, r with
          | '\\', 'u' :: a :: b :: c :: d :: r => do
            basicLines ((← Text.codePoint? [a, b, c, d]) :: done) .text r
          | '\\', 'U' :: a :: b :: c :: d :: e :: f :: g :: h :: r => do
            basicLines ((← Text.codePoint? [a, b, c, d, e, f, g, h]) :: done) .text r
          | '\\', c :: r =>
            match escape? c with
            | some c => basicLines (c :: done) .text r
            | none =>
              if isSpace c then basicLines done .gap r
              else
                match c, r with
                | '\n', r => basicLines done .nextLine r
                | '\r', '\n' :: r => basicLines done .nextLine r
                | _, _ => none
          | '\r', '\n' :: r =>
            if state = .nextLine then basicLines done .nextLine r
            else basicLines ('\n' :: done) .text r
          | c, r =>
            if c = '\n' ∨ (isPlain c ∧ c ≠ '\\') then basicLines (c :: done) .text r else none

/-- The rest of a literal string over several lines. -/
def literalLines (done : List Char) : Reader String
  | [] => none
  | c :: r =>
    match closing? '\'' (c :: r) with
    | some (quotes, r) => some (String.ofList (quotes ++ done).reverse, r)
    | none =>
      match c, r with
      | '\r', '\n' :: r => literalLines ('\n' :: done) r
      | c, r => if c = '\n' ∨ isPlain c then literalLines (c :: done) r else none

/-- The text without a line end at its very beginning. -/
def dropNewline (s : List Char) : List Char := (newline? s).getD s

/-- A string of any kind. -/
def string? : Reader String
  | '"' :: '"' :: '"' :: r => basicLines [] .text (dropNewline r)
  | '\'' :: '\'' :: '\'' :: r => literalLines [] (dropNewline r)
  | '"' :: r => basicString [] r
  | '\'' :: r => literalString [] r
  | _ => none

/-! ## Keys -/

/-- A key of one part: without quotes, or a string in one line. -/
def simpleKey? : Reader String
  | '"' :: r => basicString [] r
  | '\'' :: r => literalString [] r
  | s =>
    let (key, rest) := s.span isBare
    if key.isEmpty then none else some (String.ofList key, rest)

/-- A key of one or more parts with dots between them, in at most `most` parts. -/
def keyParts? : Nat → Reader (List String)
  | 0, _ => none
  | most + 1, s => do
    let (part, r) ← simpleKey? s
    match skipSpaces r with
    | '.' :: r' =>
      let (parts, r) ← keyParts? most (skipSpaces r')
      return (part :: parts, r)
    | _ => return ([part], r)

/-- How deep a key or a value may go. -/
def depthLimit : Nat := 79

/-- A key of one or more parts with dots between them. -/
def key? (s : List Char) : Option (List String × List Char) := keyParts? depthLimit s

end SampledEviction.Toml
