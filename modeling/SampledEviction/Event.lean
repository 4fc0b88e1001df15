/-!
# Events

What the program reports while it runs. An event has a level, a target that says which part
of the program speaks, a message and named values.
-/

namespace SampledEviction

/-- How important an event is, the most important first. -/
inductive Level where
  | error
  | warn
  | info
  | debug
  | trace
  deriving DecidableEq, Repr

namespace Level

/-- The larger, the less important. -/
def verbosity : Level → Nat
  | error => 1
  | warn => 2
  | info => 3
  | debug => 4
  | trace => 5

/-- The name of a level in a report. -/
def name : Level → String
  | error => "ERROR"
  | warn => "WARN"
  | info => "INFO"
  | debug => "DEBUG"
  | trace => "TRACE"

end Level

/-- A value of an event. -/
inductive EventValue where
  | text (s : String)
  | count (n : Nat)
  | flag (b : Bool)
  | single (x : Float32)
  | double (x : Float)

/-- One report. -/
structure Event where
  level : Level
  target : String
  message : String
  fields : List (String × EventValue)
  /-- The name of the thread that speaks. -/
  thread : String := "main"

/-- The names of the values of an event; the message counts as one of them. -/
def Event.fieldNames (e : Event) : List String := "message" :: e.fields.map (·.1)

end SampledEviction
