import TextAdventure.World.Basic

/-!
# Data that records are read from

Worlds, settings and snapshots are written down in several data formats. A
format says how one of its values is seen as a text, a number, a list or a
record (`Source`); how the records are made of these is said once for all
formats. A reading has no value when the data does not have the shape that is
asked for.
-/

namespace TextAdventure

/-- The ways to see a value of a data format as something that records are made
of. -/
class Source (V : Type) where
  text? : V → Option String
  bool? : V → Option Bool
  /-- A number that counts. Its upper limit is not checked here. -/
  natural? : V → Option Nat
  /-- A number of points. Its limits are not checked here. -/
  integer? : V → Option Int
  single? : V → Option Single
  list? : V → Option (List V)
  /-- The entries of a dictionary; of equal keys the last one counts. -/
  entries? : V → Option (List (String × V))
  /-- A value that may be left out, even where something is written. -/
  optional? : V → Option (Option V)
  /-- One of several named cases, with what it holds. -/
  case? : V → Option (String × Option V)
  /-- The fields that are written down of a record with this name and these
  fields; none of them twice, and no others. -/
  record? : String → List String → V → Option (List (String × V))

namespace Reading

variable {V α : Type} [Source V]

/-! ## Values -/

def counter (v : V) : Option Nat := (Source.natural? v).filter (· ≤ counterLimit)

/-- A number of points, which may be negative. -/
def points (v : V) : Option Int :=
  (Source.integer? v).filter fun n => -2147483648 ≤ n && n ≤ 2147483647

def list (read : V → Option α) (v : V) : Option (List α) :=
  (Source.list? v).bind (·.mapM read)

def texts (v : V) : Option (List String) := list Source.text? v

/-- A value that may be left out. -/
def optional (read : V → Option α) (v : V) : Option (Option α) :=
  (Source.optional? v).bind (·.mapM read)

def dictionary (read : V → Option α) (v : V) : Option (Std.ExtTreeMap String α) := do
  let entries ← (← Source.entries? v).mapM fun (key, value) => do return (key, ← read value)
  return .ofList entries

/-! ## Fields of a record -/

def required (fields : List (String × V)) (name : String) (read : V → Option α) : Option α :=
  (fields.lookup name).bind read

/-- A field with a value to use where it is missing. -/
def withDefault (fields : List (String × V)) (name : String) (default : α)
    (read : V → Option α) : Option α :=
  match fields.lookup name with
  | some v => read v
  | none => some default

/-- A field that may be missing or left out. -/
def given (fields : List (String × V)) (name : String) (read : V → Option α) :
    Option (Option α) :=
  withDefault fields name none (optional read)

end Reading

end TextAdventure
