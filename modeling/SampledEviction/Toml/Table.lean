import SampledEviction.Toml.Value

/-!
# Tables under construction

A document builds its tables from pairs and headers, and may not define the same thing twice.
How a table came to be decides what may be added to it later: a table that is only implied by
the header of a subtable may get a header of its own, one that is implied by dotted keys may
get more dotted keys, and a value is closed.
-/

namespace SampledEviction.Toml

mutual

/-- A table under construction. -/
inductive Table where
  /-- Tables that are `implied` have no header of their own, `dotted` ones come from dotted keys. -/
  | mk (implied dotted : Bool) (entries : List (String × Node))

/-- What a key of a table stands for. -/
inductive Node where
  /-- A closed value. -/
  | value (v : Value)
  | table (t : Table)
  /-- The tables under headers in double brackets, the latest first. -/
  | tables (latest : Table) (earlier : List Table)

end

namespace Table

/-- A table with a header of its own. -/
def empty : Table := .mk false false []

instance : Inhabited Table := ⟨empty⟩

def implied : Table → Bool
  | .mk implied _ _ => implied

def dotted : Table → Bool
  | .mk _ dotted _ => dotted

def entries : Table → List (String × Node)
  | .mk _ _ entries => entries

/-- What a key stands for. -/
def find? (t : Table) (key : String) : Option Node := (t.entries.find? (·.1 == key)).map (·.2)

/-- Adds a key behind the others. -/
def append (t : Table) (key : String) (n : Node) : Table :=
  .mk t.implied t.dotted (t.entries ++ [(key, n)])

/-- Removes a key. -/
def remove (t : Table) (key : String) : Table :=
  .mk t.implied t.dotted (t.entries.filter (·.1 != key))

/-- Changes what a key stands for. -/
def replace (t : Table) (key : String) (n : Node) : Table :=
  .mk t.implied t.dotted (t.entries.map fun e => if e.1 == key then (key, n) else e)

/-! ## Changes along a path -/

/--
Changes the table at the end of a path, whose missing tables are implied.

The path of a dotted key leads through tables without a header of their own only.
-/
def atPath (dottedKey : Bool) (change : Table → Option Table) : List String → Table → Option Table
  | [], t => change t
  | key :: path, t =>
    match t.find? key with
    | none => do
      let child ← atPath dottedKey change path (.mk true dottedKey [])
      return t.append key (.table child)
    | some (.value _) => none
    | some (.table child) =>
      if dottedKey && !child.implied then none
      else do return t.replace key (.table (← atPath dottedKey change path child))
    | some (.tables latest earlier) => do
      return t.replace key (.tables (← atPath dottedKey change path latest) earlier)

/-- Adds a pair, whose key has a path before its last part. -/
def addPair (path : List String) (key : String) (v : Value) : Table → Option Table :=
  atPath true
    (fun t =>
      if t.dotted == path.isEmpty then none
      else if (t.find? key).isSome then none
      else some (t.append key (.value v)))
    path

/-- Opens the table of a header. -/
def openTable (path : List String) (key : String) : Table → Option Table :=
  atPath false
    (fun t =>
      match t.find? key with
      | none => some (t.append key (.table .empty))
      | some (.table old) =>
        if old.implied && !old.dotted then
          some ((t.remove key).append key (.table (.mk false false old.entries)))
        else none
      | some _ => none)
    path

/-- Opens a further table of a header in double brackets. -/
def openElement (path : List String) (key : String) : Table → Option Table :=
  atPath false
    (fun t =>
      match t.find? key with
      | none => some (t.append key (.tables .empty []))
      | some (.tables latest earlier) =>
        some (t.replace key (.tables .empty (latest :: earlier)))
      | some _ => none)
    path

/-! ## The finished table -/

mutual

/-- The value of a finished table. -/
def toValue : Table → Value
  | .mk _ _ entries => .table (entriesToValues entries)

/-- The keys and values of a finished table. -/
def entriesToValues : List (String × Node) → List (String × Value)
  | [] => []
  | (key, n) :: rest => (key, nodeToValue n) :: entriesToValues rest

/-- The value of a key of a finished table. -/
def nodeToValue : Node → Value
  | .value v => v
  | .table t => t.toValue
  | .tables latest earlier => .array (tablesToValues earlier ++ [latest.toValue])

/-- The values of tables, the first of which comes last. -/
def tablesToValues : List Table → List Value
  | [] => []
  | t :: rest => tablesToValues rest ++ [t.toValue]

end

end Table

end SampledEviction.Toml
