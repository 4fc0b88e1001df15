import SampledEviction.Toml.Number
import SampledEviction.Toml.Table
import SampledEviction.Toml.Text

/-!
# TOML documents

A document is a sequence of lines: pairs of a key and a value, headers of tables, and blank
lines. Values may nest to a certain depth. Their reader is bounded by fuel besides; every call
but one in a row reads a character, so twice the length of the text is enough.
-/

namespace SampledEviction.Toml

/-! ## Values -/

/-- The last part of a key, and the path before it. -/
def splitLast? (parts : List String) : Option (List String × String) :=
  parts.getLast?.map fun key => (parts.dropLast, key)

mutual

/-- A value of any kind, in at most `depth` arrays and tables within each other. -/
def value? : Nat → Nat → Reader Value
  | 0, _, _ => none
  | fuel + 1, depth, s =>
    match s, depth with
    | '"' :: _, _ | '\'' :: _, _ => (string? s).map fun (v, r) => (.string v, r)
    | '[' :: _, 0 | '\x7b' :: _, 0 => none
    | '[' :: r, depth + 1 => do
      let (items, r) ← items? fuel depth (skipBlank r)
      return (.array items, r)
    | '\x7b' :: r, depth + 1 =>
      match skipSpaces r with
      | '\x7d' :: r => some (.table [], r)
      | r => do
        let (t, r) ← pairs? fuel depth .empty r
        return (t.toValue, r)
    | s, _ => word? s

/-- The items of an array and the bracket that closes it. -/
def items? : Nat → Nat → Reader (List Value)
  | 0, _, _ => none
  | fuel + 1, depth, s =>
    match s with
    | ']' :: r => some ([], r)
    | s => do
      let (v, r) ← value? fuel depth s
      match skipBlank r with
      | ',' :: r =>
        let (vs, r) ← items? fuel depth (skipBlank r)
        return (v :: vs, r)
      | ']' :: r => return ([v], r)
      | _ => none

/-- One or more pairs of a table in one line, added to what has been read of it, and the brace
that closes it. -/
def pairs? : Nat → Nat → Table → Reader Table
  | 0, _, _, _ => none
  | fuel + 1, depth, t, s => do
    let (parts, r) ← key? s
    let (path, key) ← splitLast? parts
    match skipSpaces r with
    | '=' :: r =>
      let (v, r) ← value? fuel depth (skipSpaces r)
      let t ← t.addPair path key v
      match skipSpaces r with
      | ',' :: r => pairs? fuel depth t (skipSpaces r)
      | '\x7d' :: r => return (t, r)
      | _ => none
    | _ => none

end

/-- A value of any kind. -/
def nestedValue? (s : List Char) : Option (Value × List Char) :=
  value? (2 * s.length + 2) depthLimit s

/-! ## Lines -/

/-- A line of a document. -/
inductive Line where
  | blank
  | pair (path : List String) (key : String) (v : Value)
  | header (path : List String) (key : String)
  | element (path : List String) (key : String)

/-- A line, up to where its comment may begin. -/
def lineBody? : Reader Line := fun s =>
  match skipSpaces s with
  | '[' :: '[' :: r => do
    let (parts, r) ← key? (skipSpaces r)
    let (path, key) ← splitLast? parts
    match skipSpaces r with
    | ']' :: ']' :: r => return (.element path key, r)
    | _ => none
  | '[' :: r => do
    let (parts, r) ← key? (skipSpaces r)
    let (path, key) ← splitLast? parts
    match skipSpaces r with
    | ']' :: r => return (.header path key, r)
    | _ => none
  | s =>
    match s with
    | [] | '#' :: _ | '\n' :: _ | '\r' :: _ => some (.blank, s)
    | s => do
      let (parts, r) ← key? s
      let (path, key) ← splitLast? parts
      match skipSpaces r with
      | '=' :: r =>
        let (v, r) ← nestedValue? (skipSpaces r)
        return (.pair path key v, r)
      | _ => none

/-! ## Documents -/

/-- A document under construction: its root, and the path of the header in force. -/
structure Draft where
  root : Table
  path : List String

/-- Adds a line. -/
def Draft.add (d : Draft) : Line → Option Draft
  | .blank => some d
  | .pair path key v => do
    return { d with root := ← d.root.atPath false (Table.addPair path key v) d.path }
  | .header path key => do
    return ⟨← d.root.openTable path key, path ++ [key]⟩
  | .element path key => do
    return ⟨← d.root.openElement path key, path ++ [key]⟩

/-- Adds the lines of a text, at most `fuel` of them. -/
def Draft.addLines : Nat → Draft → List Char → Option Draft
  | _, d, [] => some d
  | 0, _, _ => none
  | fuel + 1, d, s => do
    let (line, r) ← lineBody? s
    let r ← lineEnd? r
    addLines fuel (← d.add line) r

/-- The table that a document stands for; a byte order mark at its beginning is skipped. -/
def parse? (text : String) : Option Value := do
  let s := text.toList
  let s := if s.head? = some '\ufeff' then s.tail else s
  let d ← Draft.addLines (s.length + 1) ⟨.empty, []⟩ s
  return d.root.toValue

end SampledEviction.Toml
