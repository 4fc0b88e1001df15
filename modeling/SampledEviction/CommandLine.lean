/-!
# The command line

One argument is the path of a file with settings. An option asks for an example of such a file
instead. Arguments are looked at in turn, and the first that is wrong, or asks for help, ends
the matter.
-/

namespace SampledEviction

/-- What the program is asked to do. -/
inductive Command where
  /-- Explains the command line. -/
  | help
  /-- Prints an example of a file with settings. -/
  | printExample
  /-- Runs the benchmark that a file describes. -/
  | run (path : String)
  deriving DecidableEq, Repr

namespace Command

/-- What is wrong with a command line. -/
inductive Fault where
  | unexpected (argument : String)
  /-- An option may be given only once. -/
  | repeated (option : String)
  /-- An option is given a value, but takes none. -/
  | valued (option value : String)
  /-- The path is empty. -/
  | emptyPath
  /-- There is no path. -/
  | missing
  deriving DecidableEq, Repr

/-- The arguments seen so far. -/
structure Seen where
  path : Option String := none
  printsExample : Bool := false
  /-- Whether options are over, so that all that follows is taken as a path. -/
  optionsOver : Bool := false

/-- Takes an argument as the path. -/
def takePath (s : Seen) (argument : String) : Except Fault Seen :=
  if s.path.isSome then .error (.unexpected argument)
  else if argument.isEmpty then .error .emptyPath
  else .ok { s with path := some argument }

/-- The option that asks for an example. -/
def exampleOption : String := "--print-config"

/-- Takes an argument; `none` if it asks for help. -/
def takeArgument (s : Seen) (argument : String) : Except Fault (Option Seen) :=
  if s.optionsOver || argument == "-" || !argument.startsWith "-" then
    (takePath s argument).map some
  else if argument == "--" then .ok (some { s with optionsOver := true })
  else if argument == exampleOption then
    if s.printsExample then .error (.repeated exampleOption)
    else .ok (some { s with printsExample := true })
  else if argument == "--help" || argument.startsWith "-h" then .ok none
  else if argument.startsWith (exampleOption ++ "=") then
    .error (.valued exampleOption (argument.drop (exampleOption.length + 1)).toString)
  else .error (.unexpected argument)

/-- What the arguments ask for, once they are all seen. -/
def conclude (s : Seen) : Except Fault Command :=
  if s.printsExample then .ok .printExample
  else
    match s.path with
    | some path => .ok (.run path)
    | none => .error .missing

/-- What arguments ask for, after some have been seen. -/
def parseFrom : Seen → List String → Except Fault Command
  | s, [] => conclude s
  | s, argument :: rest =>
    match takeArgument s argument with
    | .error e => .error e
    | .ok none => .ok .help
    | .ok (some s) => parseFrom s rest

/-- What arguments ask for. -/
def parse (arguments : List String) : Except Fault Command := parseFrom {} arguments

/-- The wording of a fault. -/
def Fault.message : Fault → String
  | .unexpected argument => s!"error: unexpected argument '{argument}' found"
  | .repeated option => s!"error: the argument '{option}' cannot be used multiple times"
  | .valued option value =>
    s!"error: unexpected value '{value}' for '{option}' found; no more were expected"
  | .emptyPath => "error: a value is required for '[CONFIG]' but none was supplied"
  | .missing =>
    "error: the following required arguments were not provided:\n  <CONFIG>"

/-- How the program is called. -/
def usage : String := "Usage: evict-bench [OPTIONS] [CONFIG]"

/-- The explanation of the command line. -/
def helpText : String :=
  "\n".intercalate
    ["Eviction engine benchmark",
      "",
      usage,
      "",
      "Arguments:",
      "  [CONFIG]  Path to configuration file",
      "",
      "Options:",
      "      --print-config  Print an example configuration and exit",
      "  -h, --help          Print help",
      ""]

end Command

end SampledEviction
