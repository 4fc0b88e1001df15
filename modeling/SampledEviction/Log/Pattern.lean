import SampledEviction.Loop
import SampledEviction.Text.Blank
import SampledEviction.Text.CodePoint
import SampledEviction.Text.Property

/-!
# Patterns

Whether a text is a regular expression: characters, sets in brackets, groups in parentheses,
alternatives and repetitions. Nothing is matched here.

A pattern is about the characters of Unicode or, where it says so, about those of ASCII. The
properties of the former are not at hand: case folding, sets such as the digits, and edges of
words are there for ASCII only. In turn ASCII has no complements, as what is left of a byte is
no text. Repetitions by a count are not known either, and parts may be nested to a limit only.

* `Nesting.row_le_depth` — an alternative is not deeper than the part that it belongs to
-/

namespace SampledEviction.Pattern

/-- How a part of a pattern is read. -/
structure Mode where
  /-- Blanks and comments are passed over. -/
  spaced : Bool := false
  /-- Letters stand for both of their cases. -/
  anyCase : Bool := false
  /-- The pattern is about characters of Unicode. -/
  unicode : Bool := true
  deriving DecidableEq, Repr

namespace Mode

/--
Whether a pattern may name characters.

Where both cases of a letter of Unicode count, the other one is not known, and all that is left
are signs and sets of no character.
-/
def canName (m : Mode) : Bool := !(m.anyCase && m.unicode)

/-- Turns on or off what a letter stands for. -/
def put (m : Mode) (on : Bool) : Char → Option Mode
  | 'x' => some { m with spaced := on }
  | 'i' => some { m with anyCase := on }
  | 'u' => some { m with unicode := on }
  | 'm' | 's' | 'R' | 'U' => some m
  | _ => none

end Mode

/-! ## Nesting -/

/-- How deep parts of a pattern may be nested. -/
def depthLimit : Nat := 250

/--
How deep the parts are that have been read between two brackets.

A row of two or more parts is one deeper than the deepest of them, and so is what signs such as
a bar join.
-/
structure Nesting where
  /-- The number of parts in the row. -/
  parts : Nat := 0
  /-- The depth of the deepest part but the last. -/
  deepest : Nat := 0
  /-- The depth of the last part. -/
  last : Nat := 0
  /-- The depth of what stands before the last sign. -/
  before : Option Nat := none
  deriving DecidableEq, Repr

namespace Nesting

/-- Adds a part to the row. -/
def add (n : Nesting) (depth : Nat) : Nesting :=
  { n with parts := n.parts + 1, deepest := max n.deepest n.last, last := depth }

/-- The depth of the row. -/
def row (n : Nesting) : Nat := if n.parts ≤ 1 then n.last else max n.deepest n.last + 1

/-- The depth of everything. -/
def depth (n : Nesting) : Nat :=
  match n.before with
  | none => n.row
  | some before => max before n.row + 1

/-- Ends an alternative. All of them are joined at once. -/
def bar (n : Nesting) : Nesting := { before := some (max (n.before.getD 0) n.row) }

/-- Ends an operand. What stands before the next one is joined already. -/
def operand (n : Nesting) : Nesting := { before := some n.depth }

/-- An alternative is not deeper than the part that it belongs to. -/
theorem row_le_depth (n : Nesting) : n.row ≤ n.depth := by
  rw [depth]
  split
  · exact Nat.le_refl _
  · exact Nat.le_succ_of_le (Nat.le_max_right _ _)

end Nesting

/-! ## Blanks -/

/-- The text behind blanks and comments; a comment goes from a number sign to the line end. -/
def skipBlanks (inComment : Bool) : List Char → List Char
  | [] => []
  | c :: r =>
    if inComment then skipBlanks (c != '\n') r
    else if c == '#' then skipBlanks true r
    else if Text.isBlank c then skipBlanks false r
    else c :: r

/-- The text behind blanks and comments, where they are passed over. -/
def skip (m : Mode) (s : List Char) : List Char := if m.spaced then skipBlanks false s else s

/-- The next character; only the sign of a comment, not its text, is passed over. -/
def peek? (m : Mode) (s : List Char) : Option Char :=
  if m.spaced then
    match s.dropWhile Text.isBlank with
    | '#' :: r => (r.dropWhile Text.isBlank).head?
    | s => s.head?
  else s.head?

/-! ## Escapes -/

/-- What a backslash and what follows it stand for. -/
inductive Escape where
  | character (c : Char)
  /-- A set of characters. -/
  | set
  /-- A place between characters. -/
  | place
  deriving DecidableEq, Repr

/-- Some hexadecimal digits, and the rest. -/
def digits? (m : Mode) : Nat → List Char → Option (List Char × List Char)
  | 0, s => some ([], s)
  | n + 1, s =>
    match skip m s with
    | [] => none
    | c :: r => (digits? m n r).map fun (ds, r) => (c :: ds, r)

/-- A character by the given number of hexadecimal digits. -/
def codePoint? (m : Mode) (n : Nat) (s : List Char) : Option (Char × List Char) := do
  let (ds, r) ← digits? m n s
  return (← Text.codePoint? ds, r)

/-- What follows a backslash. Signs of ASCII stand for themselves. -/
def escape? (m : Mode) : List Char → Option (Escape × List Char)
  | [] => none
  | c :: r =>
    match c with
    | 'x' => do
      let (c, r) ← codePoint? m 2 r
      if m.unicode || c.toNat < 0x80 then some (.character c, r) else none
    | 'u' => (codePoint? m 4 r).map fun (c, r) => (.character c, r)
    | 'U' => (codePoint? m 8 r).map fun (c, r) => (.character c, r)
    | 'a' => some (.character '\x07', r)
    | 't' => some (.character '\t', r)
    | 'n' => some (.character '\n', r)
    | 'v' => some (.character '\x0b', r)
    | 'f' => some (.character '\x0c', r)
    | 'r' => some (.character '\r', r)
    | 'A' | 'z' => some (.place, r)
    | 'b' | 'B' | '<' | '>' => if m.unicode then none else some (.place, r)
    | 'd' | 's' | 'w' => if m.unicode then none else some (.set, r)
    | c => if c.toNat < 0x80 && !c.isAlphanum then some (.character c, r) else none

/-! ## Sets -/

/-- Names of sets, which stand between colons within the brackets of another set. -/
def setNames : List String :=
  ["alnum", "alpha", "ascii", "blank", "cntrl", "digit", "graph", "lower", "print", "punct",
    "space", "upper", "word", "xdigit"]

/-- A set by name, from behind its opening bracket: whether it is negated, and the rest. -/
def namedSet? : List Char → Option (Bool × List Char)
  | ':' :: r =>
    let negated := r.head? == some '^'
    match (if negated then r.tail else r).span (· != ':') with
    | (name, ':' :: ']' :: r) =>
      if setNames.contains (String.ofList name) then some (negated, r) else none
    | _ => none
  | _ => none

/-- Whether a character may be in a set. -/
def inScope (m : Mode) (c : Char) : Bool := m.canName && (m.unicode || c.toNat < 0x80)

/-- A character of a set, possibly escaped. -/
def item? (m : Mode) : List Char → Option (Escape × List Char)
  | [] => none
  | '\\' :: r => escape? m r
  | c :: r => some (.character c, r)

/--
Reads a member of a set: a character, a range, or a set that is escaped.

A minus sign makes a range unless another one or the end of the set follows it. A range goes
from a character to one that is not before it.
-/
def member? (m : Mode) (s : List Char) : Option (List Char) := do
  let (first, r) ← item? m s
  let alone := match first with
    | .character c => inScope m c
    | .set => true
    | .place => false
  match skip m r with
  | '-' :: r =>
    if peek? m r = some ']' ∨ peek? m r = some '-' then
      if alone then some ('-' :: r) else none
    else
      match first, ← item? m (skip m r) with
      | .character a, (.character b, r) =>
        if a ≤ b && inScope m a && inScope m b then some r else none
      | _, _ => none
  | r => if alone then some r else none

/-- How much of a set has been read. -/
inductive Progress where
  /-- Nothing: a minus sign stands for itself, and so does a closing bracket. -/
  | opened
  /-- Minus signs, which stand for themselves. -/
  | minuses
  /-- Any members. -/
  | members
  deriving DecidableEq, Repr

/-- Where the reader of a set is. -/
structure SetScan where
  rest : List Char
  progress : Progress := .opened
  nesting : Nesting := {}
  /-- The sets around this one, the innermost first. -/
  outer : List Nesting := []

/-- The beginning of a set, from behind its opening bracket. -/
def SetScan.start? (m : Mode) (outer : List Nesting) (s : List Char) : Option SetScan :=
  match skip m s with
  | '^' :: r => if m.unicode then some { rest := r, outer } else none
  | r => some { rest := r, outer }

/-- Goes on behind a member. -/
def SetScan.put (st : SetScan) (depth : Nat) (r : List Char) (progress : Progress := .members) :
    SetScan :=
  { st with rest := r, progress, nesting := st.nesting.add depth }

/--
Reads a member of a set or a sign; the answer is the depth of the outermost set, and the text
behind it. A sign needs no members beside it, so `[&&]` is a set, that of no character.
-/
def SetScan.step (m : Mode) (st : SetScan) : Option (SetScan ⊕ Nat × List Char) :=
  match st.progress, skip m st.rest with
  | .opened, '-' :: r | .minuses, '-' :: r =>
    if m.canName then some (.inl (st.put 0 r .minuses)) else none
  | .opened, ']' :: r => if m.canName then some (.inl (st.put 0 r)) else none
  | _, '[' :: r =>
    match namedSet? r with
    | some (negated, r) =>
      if m.canName && (m.unicode || !negated) then some (.inl (st.put 0 r)) else none
    | none => (start? m (st.nesting :: st.outer) r).map .inl
  | _, ']' :: r =>
    match st.outer with
    | [] => some (.inr (st.nesting.depth + 1, r))
    | nesting :: outer =>
      some (.inl (SetScan.put { st with nesting, outer } (st.nesting.depth + 1) r))
  | _, '&' :: '&' :: r | _, '-' :: '-' :: r | _, '~' :: '~' :: r =>
    some (.inl { st with rest := r, progress := .members, nesting := st.nesting.operand })
  | _, s => (member? m s).map fun r => .inl (st.put 0 r)

/-- Reads a set from behind its opening bracket, and tells its depth. -/
def set? (m : Mode) (s : List Char) : Option (Nat × List Char) := do
  Loop.run (SetScan.step m) (s.length + 1) (← SetScan.start? m [] s)

/-! ## Groups -/

/-- The name of a group, from behind its opening angle bracket. -/
def groupName? (s : List Char) : Option (List Char × List Char) :=
  match s.span (· != '>') with
  | (c :: name, _ :: r) =>
    if (c == '_' || Text.isAlphabetic c)
        && name.all fun c => ['_', '.', '[', ']'].contains c || Text.isAlphanumeric c then
      some (c :: name, r)
    else none
  | _ => none

/--
Reads the letters that change how a group is read, each of them at most once; those behind a
minus sign are turned off. `seen` is what has been read, backwards. What follows them is a
colon or, if there are any, a closing parenthesis.
-/
def flags? (m : Mode) (on : Bool) (seen : List Char) : List Char → Option (Mode × List Char)
  | [] => none
  | c :: r =>
    if c == ':' || c == ')' then
      if seen.head? = some '-' || (c == ')' && seen.isEmpty) then none else some (m, c :: r)
    else if seen.contains c then none
    else if c == '-' then flags? m false (c :: seen) r
    else
      match m.put on c with
      | some m => flags? m on (c :: seen) r
      | none => none

/-! ## Patterns -/

/-- Where the reader of a pattern is. -/
structure Scan where
  rest : List Char
  mode : Mode := {}
  nesting : Nesting := {}
  /-- What is around the groups that are open, the innermost first. -/
  outer : List (Mode × Nesting) := []
  /-- Whether there is something that can be repeated. -/
  repeatable : Bool := false
  /-- The names of groups. -/
  names : List (List Char) := []

namespace Scan

/-- Opens a group. -/
def enter (st : Scan) (m : Mode) (r : List Char) : Scan :=
  { st with
    rest := r, mode := m, nesting := {}, outer := (st.mode, st.nesting) :: st.outer
    repeatable := false }

/-- Goes on behind a part that can be repeated. -/
def put (st : Scan) (depth : Nat) (r : List Char) : Scan :=
  { st with rest := r, nesting := st.nesting.add depth, repeatable := true }

/-- What follows an opening parenthesis: a name, letters that change the mode, or neither. -/
def group? (st : Scan) (s : List Char) : Option Scan :=
  match skip st.mode s with
  | '?' :: 'P' :: '<' :: r | '?' :: '<' :: r => do
    let (name, r) ← groupName? r
    if st.names.contains name then none
    else some { st.enter st.mode r with names := name :: st.names }
  | '?' :: r => do
    match ← flags? st.mode true [] r with
    | (m, ':' :: r) => some (st.enter m r)
    | (m, _ :: r) => some { st.put 0 r with mode := m, repeatable := false }
    | _ => none
  | r => some (st.enter st.mode r)

/-- Repeats the last part. -/
def again (st : Scan) (r : List Char) : Scan :=
  { st with rest := r, nesting := { st.nesting with last := st.nesting.last + 1 } }

/-- Reads a part or a sign; the answer is the depth of the whole pattern. -/
def step (st : Scan) : Option (Scan ⊕ Nat) :=
  match skip st.mode st.rest with
  | [] => if st.outer.isEmpty then some (.inr st.nesting.depth) else none
  | '(' :: r => (st.group? r).map .inl
  | ')' :: r =>
    match st.outer with
    | [] => none
    | (mode, nesting) :: outer =>
      some (.inl (put { st with mode, nesting, outer } (st.nesting.depth + 1) r))
  | '|' :: r =>
    some (.inl { st with rest := r, nesting := st.nesting.bar, repeatable := false })
  | '[' :: r => (set? st.mode r).map fun (depth, r) => .inl (st.put depth r)
  | '*' :: r | '+' :: r | '?' :: r =>
    if st.repeatable then some (.inl (st.again (if r.head? = some '?' then r.tail else r)))
    else none
  | '\x7b' :: _ => none
  | '.' :: r => if st.mode.unicode then some (.inl (st.put 0 r)) else none
  | '^' :: r | '$' :: r => some (.inl (st.put 0 r))
  | '\\' :: r => do
    match ← escape? st.mode r with
    | (.character _, r) => if st.mode.canName then some (.inl (st.put 0 r)) else none
    | (_, r) => some (.inl (st.put 0 r))
  | _ :: r => if st.mode.canName then some (.inl (st.put 0 r)) else none

end Scan

/-- Whether a text is a pattern. Every step reads a character, the last one excepted. -/
def isPattern (s : List Char) : Bool :=
  (Loop.run Scan.step (s.length + 1) { rest := s }).any (· ≤ depthLimit)

end SampledEviction.Pattern
