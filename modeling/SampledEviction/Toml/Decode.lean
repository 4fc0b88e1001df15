import SampledEviction.Toml.Document
import SampledEviction.Word

/-!
# Reading records out of TOML

A record is read from a table by its keys, each of which sets one field of a default, or from
an array, whose items are its fields in order. The first fault in the order of the document is
the one that is told.
-/

namespace SampledEviction.Toml

/-- Why a record cannot be read from a text. -/
inductive Fault where
  /-- The text is no document. -/
  | malformed
  /-- The document has an unknown key or a value of the wrong kind. -/
  | mismatch
  /-- A value is of the right kind, and was refused for a reason of its own. -/
  | refused (reason : String)
  deriving DecidableEq, Repr

/-- The wording of a fault. -/
def Fault.message : Fault → String
  | .malformed => "malformed document"
  | .mismatch => "unexpected key or value"
  | .refused reason => reason

/-- A value read as something else. -/
abbrev Decoder (α : Type) := Value → Except Fault α

namespace Decoder

/-- A number up to a limit. -/
def upTo (limit : Nat) : Decoder Nat
  | .integer n => if 0 ≤ n ∧ n ≤ limit then .ok n.toNat else .error .mismatch
  | _ => .error .mismatch

/-- A number of 64 bits; in a document it has a sign bit, and is smaller. -/
def count : Decoder Nat := upTo Word.top

def flag : Decoder Bool
  | .boolean b => .ok b
  | _ => .error .mismatch

def text : Decoder String
  | .string s => .ok s
  | _ => .error .mismatch

/-- Whether a value is an empty table or array. -/
def isNothing : Value → Bool
  | .table [] => true
  | .array [] => true
  | _ => false

/-- One of some names: as a string, or as the only key of a table, with nothing under it. -/
def choice {α : Type} (ofName? : String → Option α) : Decoder α
  | .string s => (ofName? s).elim (.error .mismatch) .ok
  | .table [(s, v)] =>
    if isNothing v then (ofName? s).elim (.error .mismatch) .ok else .error .mismatch
  | _ => .error .mismatch

end Decoder

/-- A field of a record: its key, and how a value sets it. -/
structure Field (α : Type) where
  key : String
  set : Value → Except Fault (α → α)

/-- A field that is read by a decoder. -/
def field {α β : Type} (key : String) (decode : Decoder β) (set : β → α → α) : Field α where
  key
  set v := (decode v).map set

/-- Sets the field of a key. -/
def setField {α : Type} (fields : List (Field α)) (a : α) (entry : String × Value) :
    Except Fault α :=
  match fields.find? (·.key == entry.1) with
  | none => .error .mismatch
  | some f => (f.set entry.2).map fun set => set a

/-- A record with some fields, which starts as a default. -/
def record {α : Type} (fields : List (Field α)) (default : α) : Decoder α
  | .table entries => entries.foldlM (setField fields) default
  | .array items =>
    (fields.zip items).foldlM (fun a e => (e.1.set e.2).map fun set => set a) default
  | _ => .error .mismatch

/-- Reads a text. -/
def decode {α : Type} (decoder : Decoder α) (text : String) : Except Fault α :=
  match parse? text with
  | none => .error .malformed
  | some v => decoder v

end SampledEviction.Toml
