import SampledEviction.Text.CaseTable
import SampledEviction.Text.Property

/-!
# Full case mapping

Upper and lower case of texts. A character may become several, and one rule looks at its
surroundings: a capital sigma at the end of a word becomes the final form.
-/

namespace SampledEviction.Text

/-- The image of one character under a table of runs and a table of expansions. -/
def mapCase (runs : Array CaseRun) (expansions : Array (Nat × List Nat)) (c : Char) : List Char :=
  match expansions.find? (·.1 == c.toNat) with
  | some e => e.2.map Char.ofNat
  | none =>
    match runs.find? (·.covers c.toNat) with
    | some r => [Char.ofNat (r.image c.toNat)]
    | none => [c]

/-- The upper case of a text, character by character. -/
def upper (s : List Char) : List Char := s.flatMap (mapCase upperRuns upperExpansions)

/-- Whether a text, after characters that are passed over, goes on with a cased one. -/
def startsCased (s : List Char) : Bool :=
  match s.dropWhile isCaseIgnorable with
  | c :: _ => isCased c
  | [] => false

/-- The lower case of a capital sigma between two texts, the first of them read backwards. -/
def lowerSigma (before after : List Char) : Char :=
  if startsCased before && !startsCased after then 'ς' else 'σ'

/-- The lower case of a text, of which `before` has been passed, read backwards. -/
def lowerAfter (before : List Char) : List Char → List Char
  | [] => []
  | c :: rest =>
    let image := if c = 'Σ' then [lowerSigma before rest] else mapCase lowerRuns lowerExpansions c
    image ++ lowerAfter (c :: before) rest

/-- The lower case of a text. -/
def lower (s : List Char) : List Char := lowerAfter [] s

end SampledEviction.Text
