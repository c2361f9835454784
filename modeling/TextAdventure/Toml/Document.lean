import TextAdventure.Toml.Scalar
import TextAdventure.Toml.Text

/-!
# TOML documents

A document is a table that is built line by line: a line sets a key in the
current table, and a header chooses another one. `insert` and `openTable` say
which tables can be extended from where; nothing can be set twice.
-/

namespace TextAdventure.Toml

/-- How a table came about. -/
inductive Origin where
  /-- It is written as a value and complete. -/
  | inline
  /-- A header names a table inside it. -/
  | implied
  /-- A key with points names something inside it. -/
  | dotted
  | header
deriving DecidableEq, Repr, Inhabited

/-- A value. -/
inductive Value where
  | text (text : String)
  | scalar (scalar : Scalar)
  | array (items : List Value)
  | table (origin : Origin) (entries : List (String × Value))
  /-- Tables under headers in double brackets. -/
  | tables (tables : List (List (String × Value)))
deriving Repr, Inhabited

abbrev Entries := List (String × Value)

/-! ## Building tables -/

/-- The entries with a key set anew, in place. -/
def setEntry (key : String) (value : Value) (entries : Entries) : Entries :=
  if (entries.lookup key).isSome then
    entries.map fun (k, v) => if k == key then (k, value) else (k, v)
  else entries ++ [(key, value)]

/-- Changes the table at the end of a path, making the tables on the way that are
missing. Headers lead through every table and into the last of several; keys
with points do not lead through tables that have a header of their own. -/
def within (byKey : Bool) (change : Bool → Entries → Option Entries) :
    Bool → List String → Entries → Option Entries
  | isDotted, [], entries => change isDotted entries
  | _, key :: path, entries =>
    match entries.lookup key with
    | none => do
      let inner ← within byKey change byKey path []
      return setEntry key (.table (if byKey then .dotted else .implied) inner) entries
    | some (.table origin inner) =>
      if origin = .inline || (byKey && origin = .header) then none
      else do
        let inner ← within byKey change (origin = .dotted) path inner
        return setEntry key (.table origin inner) entries
    | some (.tables tables) => do
      let inner ← within byKey change false path (tables.getLast?.getD [])
      return setEntry key (.tables (tables.dropLast ++ [inner])) entries
    | some _ => none

/-- Sets a key with points in a table. Nothing may be set there yet, and the parts
before the last point lead to a table that such keys have made. -/
def insert (path : List String) (value : Value) (entries : Entries) : Option Entries := do
  let name ← path.getLast?
  let outer := path.dropLast
  within true (fun isDotted entries =>
    if isDotted == outer.isEmpty || (entries.lookup name).isSome then none
    else some (entries ++ [(name, value)])) false outer entries

/-- A table with these keys set, one after the other. -/
def insertAll (pairs : List (List String × Value)) (entries : Entries) : Option Entries :=
  pairs.foldlM (fun entries (path, value) => insert path value entries) entries

/-- Gives the table of a header its keys. Only a table that another header has
implied may be there already. -/
def openTable (path : List String) (pairs : List (List String × Value)) (entries : Entries) :
    Option Entries := do
  let name ← path.getLast?
  within false (fun _ entries => do
    let start ←
      match entries.lookup name with
      | none => some []
      | some (.table .implied inner) => some inner
      | some _ => none
    return setEntry name (.table .header (← insertAll pairs start)) entries)
    false path.dropLast entries

/-- Adds one more table of a header in double brackets. -/
def addTable (path : List String) (pairs : List (List String × Value)) (entries : Entries) :
    Option Entries := do
  let name ← path.getLast?
  within false (fun _ entries => do
    let others ←
      match entries.lookup name with
      | none => some []
      | some (.tables others) => some others
      | some _ => none
    return setEntry name (.tables (others ++ [← insertAll pairs []])) entries)
    false path.dropLast entries

/-! ## Reading values -/

mutual

/-- A value and what follows it. So many arrays and tables can still stand inside
each other. Every step uses up a character or is followed by one that does. -/
def value : Nat → Nat → List Char → Option (Value × List Char)
  | 0, _, _ => none
  | steps + 1, room, cs =>
    match cs, room with
    | '"' :: _, _ | '\'' :: _, _ =>
      (text? steps cs).map fun (t, rest) => (.text (String.ofList t), rest)
    | '[' :: rest, room + 1 => (items steps room rest).map fun (vs, rest) => (.array vs, rest)
    | '\x7b' :: rest, room + 1 => do
      let (pairs, rest) ←
        match skipSpaces rest with
        | '\x7d' :: rest => some ([], rest)
        | rest => inlinePairs steps room rest
      return (.table .inline (← insertAll pairs []), rest)
    | cs, _ => (scalar cs).map fun (s, rest) => (.scalar s, rest)

/-- The items of an array up to its closing bracket. -/
def items : Nat → Nat → List Char → Option (List Value × List Char)
  | 0, _, _ => none
  | steps + 1, room, cs =>
    match skipLines steps cs with
    | ']' :: rest => some ([], rest)
    | cs => do
      let (first, rest) ← value steps room cs
      match skipLines steps rest with
      | ',' :: rest =>
        let (more, rest) ← items steps room rest
        return (first :: more, rest)
      | ']' :: rest => some ([first], rest)
      | _ => none

/-- The keys of a table in braces, one at least, up to its closing brace. -/
def inlinePairs : Nat → Nat → List Char → Option (List (List String × Value) × List Char)
  | 0, _, _ => none
  | steps + 1, room, cs => do
    let (first, rest) ← pair steps room cs
    match skipSpaces rest with
    | ',' :: rest =>
      let (more, rest) ← inlinePairs steps room rest
      return (first :: more, rest)
    | '\x7d' :: rest => some ([first], rest)
    | _ => none

def pair : Nat → Nat → List Char → Option ((List String × Value) × List Char)
  | 0, _, _ => none
  | steps + 1, room, cs => do
    let (path, rest) ← key steps cs
    match rest with
    | '=' :: rest =>
      let (v, rest) ← value steps room (skipSpaces rest)
      return ((path, v), rest)
    | _ => none

end

/-! ## Reading documents -/

/-- The lines that set keys, up to a header or the end. Every step uses up a line. -/
def keyLines : Nat → List Char → Option (List (List String × Value) × List Char)
  | 0, _ => none
  | steps + 1, cs =>
    match skipLines steps cs with
    | [] => some ([], [])
    | '[' :: rest => some ([], '[' :: rest)
    | cs => do
      let (first, rest) ← pair steps nestingLimit cs
      let (more, rest) ← keyLines steps (← finishLine rest)
      return (first :: more, rest)

/-- A header with the keys after it, put into a document. -/
def section? (steps : Nat) (entries : Entries) (cs : List Char) :
    Option (Entries × List Char) := do
  match cs with
  | '[' :: '[' :: rest =>
    match ← key steps rest with
    | (path, ']' :: ']' :: rest) =>
      let (pairs, rest) ← keyLines steps (← finishLine rest)
      return (← addTable path pairs entries, rest)
    | _ => none
  | '[' :: rest =>
    match ← key steps rest with
    | (path, ']' :: rest) =>
      let (pairs, rest) ← keyLines steps (← finishLine rest)
      return (← openTable path pairs entries, rest)
    | _ => none
  | _ => none

/-- All headers with their keys, put into a document. Every step uses up a header. -/
def sections : Nat → Entries → List Char → Option Entries
  | _, entries, [] => some entries
  | 0, _, _ => none
  | steps + 1, entries, cs => do
    let (entries, rest) ← section? steps entries cs
    sections steps entries rest

/-- The value of a whole file. -/
def Value.ofText? (text : String) : Option Value := do
  let cs :=
    match text.toList with
    | '\ufeff' :: rest => rest
    | cs => cs
  let steps := 4 * cs.length + 4
  let (pairs, rest) ← keyLines steps cs
  let entries ← insertAll pairs []
  return .table .header (← sections steps entries rest)

end TextAdventure.Toml
