import TextAdventure.Reading.Source
import TextAdventure.Repetition
import TextAdventure.Ron.Skipped

/-!
# Records in RON files

How the values of RON files are seen as texts, numbers and records. The records
that are asked for are only a few levels deep, so that only the values that are
passed over can be nested too deeply.
-/

namespace TextAdventure.Ron

/-- Another value of the same file, so many levels deeper. -/
def Node.deeper (node : Node) (levels : Nat) (value : Value) : Node :=
  { rules := node.rules, value, room := node.room - levels }

/-- What `Some` holds, or nothing for `None`. -/
def Node.optional? (node : Node) : Option (Option Node) :=
  match node.value with
  | .name ⟨"None", false⟩ => some none
  | .bareSome value => if node.rules.implicitSome then some (some (node.deeper 1 value)) else none
  | .group (some ⟨"Some", false⟩) [] =>
    if node.rules.unwrappedSome then
      some (some { node.deeper 1 (.group none []) with opened := true })
    else none
  | .record (some ⟨"Some", false⟩) fields =>
    if node.rules.unwrappedSome then
      some (some { node.deeper 1 (.record none fields) with opened := true })
    else none
  | .group (some ⟨"Some", false⟩) [value] =>
    match node.rules.unwrappedSome, value with
    | true, .unit | true, .group .. | true, .record .. => none
    | _, value => some (some (node.deeper 1 value))
  | value => if node.rules.implicitSome then some (some (node.deeper 1 value)) else none

/-- The name in front of a record is its own. -/
def Node.isNamed (node : Node) (expected : String) : Option Name → Bool
  | some found => found.text == expected
  | none => node.opened || !node.rules.explicitNames

def field? : Value × Value → Option (String × Value)
  | (.name n, value) => some (n.text, value)
  | _ => none

/-- The fields of a record, none of them twice; others are passed over. -/
def Node.record? (expected : String) (known : List String) (node : Node) :
    Option (List (String × Node)) :=
  match node.value with
  | .record name fields => do
    let fields ← fields.mapM field?
    let (own, others) := fields.partition fun (field, _) => known.contains field
    if node.isNamed expected name && (repeated (own.map (·.1))).isEmpty
        && others.all (·.2.isSkippable node.rules false (node.room - 2)) then
      some (own.map fun (field, value) => (field, node.deeper 2 value))
    else none
  | .group name [] => if node.isNamed expected name then some [] else none
  | .unit => if node.isNamed expected none then some [] else none
  | _ => none

/-- The entries of a dictionary with texts as its keys. -/
def Node.entries? (node : Node) : Option (List (String × Node)) :=
  match node.value with
  | .map entries => entries.mapM fun
    | (.text key, value) => some (key, node.deeper 2 value)
    | _ => none
  | _ => none

instance : Source Node where
  text? node :=
    match node.value with
    | .text t => some t
    | _ => none
  bool? node :=
    match node.value with
    | .name ⟨"true", false⟩ => some true
    | .name ⟨"false", false⟩ => some false
    | _ => none
  natural? node :=
    match node.value with
    | .number t => (whole? "u32" t).bind Int.toNat?
    | _ => none
  integer? node :=
    match node.value with
    | .number t => whole? "i32" t
    | _ => none
  single? node :=
    match node.value with
    | .number t | .name ⟨t, false⟩ => single? t
    | _ => none
  list? node :=
    match node.value with
    | .list items => some (items.map (node.deeper 2))
    | _ => none
  entries? := Node.entries?
  optional? := Node.optional?
  case? node :=
    match node.value with
    | .name n => some (n.text, none)
    | .group (some n) [value] => some (n.text, some (node.deeper 2 value))
    | _ => none
  record? := Node.record?

end TextAdventure.Ron
