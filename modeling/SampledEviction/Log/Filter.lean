import SampledEviction.Event

/-!
# Filtering events

Which events are reported is a matter of rules. A rule has a target, possibly a field, and a
verbosity. It is about the events whose target starts with its own and that have its field; of
the rules about an event the most specific one decides.

* `Filter.enables_anywhere` — a single rule for every target decides for every event
-/

namespace SampledEviction

/-- Some events are reported up to a verbosity. -/
structure FilterRule where
  /-- What the targets start with; every target starts with nothing. -/
  target : String := ""
  /-- A field that the events have. -/
  field : Option String := none
  /-- The largest verbosity that is reported; with zero nothing is. -/
  verbosity : Nat
  deriving DecidableEq, Repr

namespace FilterRule

/-- Whether a rule is about an event. -/
def concerns (r : FilterRule) (e : Event) : Bool :=
  r.target.toList.isPrefixOf e.target.toList && r.field.all e.fieldNames.contains

/-- Whether a text is equal to another one or comes before it in the order of code points. -/
def isOrdered : List Char → List Char → Bool
  | [], _ => true
  | _ :: _, [] => false
  | a :: s, b :: t => a.toNat < b.toNat || (a == b && isOrdered s t)

/--
Whether a rule is at least as specific as another one about the same event: it has the longer
target, or a field and the other one has none, or the field that comes later in this order.
-/
def outranks (r other : FilterRule) : Bool :=
  if r.target.length = other.target.length then
    match r.field, other.field with
    | some a, some b => isOrdered b.toList a.toList
    | none, some _ => false
    | _, none => true
  else other.target.length < r.target.length

end FilterRule

/-- Rules in the order in which they are written. -/
structure Filter where
  rules : List FilterRule
  deriving DecidableEq, Repr

namespace Filter

/-- The rule for an event: the most specific one, and the last of these. -/
def ruleFor? (f : Filter) (e : Event) : Option FilterRule :=
  (f.rules.filter (·.concerns e)).foldl
    (fun best r => if best.all r.outranks then some r else best) none

/-- Whether an event is reported. -/
def enables (f : Filter) (e : Event) : Bool :=
  (f.ruleFor? e).any fun r => e.level.verbosity ≤ r.verbosity

/-- A single rule for every target decides for every event. -/
theorem enables_anywhere (v : Nat) (e : Event) :
    (Filter.mk [{ verbosity := v }]).enables e = decide (e.level.verbosity ≤ v) := by
  simp [enables, ruleFor?, FilterRule.concerns]

end Filter

end SampledEviction
