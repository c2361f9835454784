import TextAdventure.Ron.Token

/-!
# RON files

A RON file switches on some rules and then writes one value down. Values are
kept as they are written: whether parentheses hold a record, a case of several
or nothing at all is decided when the value is read.
-/

namespace TextAdventure.Ron

/-- A value as it is written. -/
inductive Value where
  | text (text : String)
  | number (text : String)
  | name (name : Name)
  /-- `Some` in front of a value that stands in no parentheses. -/
  | bareSome (value : Value)
  /-- Both parentheses, with nothing between them and no name in front. -/
  | unit
  /-- Values in parentheses, with a name in front of them or without. -/
  | group (name : Option Name) (items : List Value)
  /-- Keys with values in parentheses, with a name in front of them or without. -/
  | record (name : Option Name) (fields : List (Value × Value))
  | list (items : List Value)
  | map (entries : List (Value × Value))
  /-- A single character or bytes in quotes. -/
  | other
deriving Repr, Inhabited

def Value.ofFields (fields : List (String × Value)) : Value :=
  .record none (fields.map fun (field, v) => (.name ⟨field, false⟩, v))

/-! ## Values from words -/

/-- An element of a list in brackets of any kind; with a colon it is a pair. -/
abbrev Element := Value × Option Value

/-- Elements that are no pairs. -/
def plain (elements : List Element) : Option (List Value) :=
  elements.mapM fun
    | (v, none) => some v
    | _ => none

def pairs (elements : List Element) : Option (List (Value × Value)) :=
  elements.mapM fun
    | (key, some v) => some (key, v)
    | _ => none

/-- What stands in parentheses: values, or keys with values. -/
def Value.inParentheses (name : Option Name) (elements : List Element) : Option Value :=
  ((plain elements).map (.group name)).or ((pairs elements).map (.record name))

mutual

/-- The value at the start of some words, and the words after it. Every step uses
up a word or is followed by one that does. -/
def value : Nat → List Token → Option (Value × List Token)
  | 0, _ => none
  | steps + 1, words =>
    match words with
    | .text t :: rest => some (.text t, rest)
    | .number t :: rest => some (.number t, rest)
    | .other :: rest => some (.other, rest)
    | .unit :: rest => some (.unit, rest)
    | .name n :: .unit :: rest => some (.group (some n) [], rest)
    | .name n :: .mark '(' :: rest => inside steps ')' (Value.inParentheses (some n)) rest
    | .name ⟨"Some", false⟩ :: rest =>
      match value steps rest with
      | some (v, rest) => some (.bareSome v, rest)
      | none => some (.name ⟨"Some", false⟩, rest)
    | .name n :: rest => some (.name n, rest)
    | .mark '(' :: rest => inside steps ')' (Value.inParentheses none) rest
    | .mark '[' :: rest => inside steps ']' (fun es => (plain es).map .list) rest
    | .mark '\x7b' :: rest => inside steps '\x7d' (fun es => (pairs es).map .map) rest
    | _ => none

/-- The elements up to a closing mark, made into a value. -/
def inside : Nat → Char → (List Element → Option Value) → List Token →
    Option (Value × List Token)
  | 0, _, _, _ => none
  | steps + 1, close, make, words => do
    let (elements, rest) ← elementsUntil steps close words
    return (← make elements, rest)

/-- The elements up to a closing mark, with commas between them and perhaps one
after the last. -/
def elementsUntil : Nat → Char → List Token → Option (List Element × List Token)
  | 0, _, _ => none
  | steps + 1, close, words =>
    if words.head? = some (.mark close) then some ([], words.tail)
    else do
      let (first, rest) ← element steps words
      match rest with
      | .mark ',' :: rest =>
        let (more, rest) ← elementsUntil steps close rest
        return (first :: more, rest)
      | .mark c :: rest => if c = close then some ([first], rest) else none
      | _ => none

/-- A value, or two with a colon between them. -/
def element : Nat → List Token → Option (Element × List Token)
  | 0, _ => none
  | steps + 1, words => do
    let (first, rest) ← value steps words
    match rest with
    | .mark ':' :: rest =>
      let (second, rest) ← value steps rest
      return ((first, some second), rest)
    | rest => return ((first, none), rest)

end

/-! ## Rules -/

/-- The rules that a file can switch on. -/
structure Rules where
  /-- `Some` can be left out. -/
  implicitSome : Bool := false
  /-- The parentheses of a record inside `Some` are left out. -/
  unwrappedSome : Bool := false
  /-- Every record has its name in front of it. -/
  explicitNames : Bool := false
deriving DecidableEq, Repr, Inhabited

/-- Switches on the rule with this name. The rule `unwrap_newtypes` is known but
concerns nothing here. -/
def Rules.enable (rules : Rules) : String → Option Rules
  | "implicit_some" => some { rules with implicitSome := true }
  | "unwrap_newtypes" => some rules
  | "unwrap_variant_newtypes" => some { rules with unwrappedSome := true }
  | "explicit_struct_names" => some { rules with explicitNames := true }
  | _ => none

/-- Rules up to a closing parenthesis; one at least. -/
def enableAll (rules : Rules) : List Token → Option (Rules × List Token)
  | .name n :: .mark ',' :: .mark ')' :: rest => (rules.enable n.text).map (·, rest)
  | .name n :: .mark ')' :: rest => (rules.enable n.text).map (·, rest)
  | .name n :: .mark ',' :: rest => (rules.enable n.text).bind (enableAll · rest)
  | _ => none

/-- The rules at the start of a file, and the words after them. Every step uses up
words. -/
def rulesFirst : Nat → Rules → List Token → Option (Rules × List Token)
  | steps + 1, rules,
    .mark '#' :: .mark '!' :: .mark '[' :: .name ⟨"enable", false⟩ :: .mark '(' :: rest => do
    match ← enableAll rules rest with
    | (rules, .mark ']' :: rest) => rulesFirst steps rules rest
    | _ => none
  | _, rules, words => some (rules, words)

/-! ## Files -/

/-- How many levels the values of a file can have. -/
def nestingLimit : Nat := 128

/-- A value with the rules by which it is read. A value that is `opened` stands in
the parentheses of the `Some` around it. -/
structure Node where
  rules : Rules
  value : Value
  opened : Bool := false
  /-- How many more levels there can be from here on. -/
  room : Nat := nestingLimit
deriving Repr, Inhabited

def Node.ofText? (text : String) : Option Node := do
  let words ← tokens text
  let (rules, words) ← rulesFirst words.length {} words
  match ← Ron.value (4 * words.length + 1) words with
  | (value, []) => return { rules, value }
  | _ => none

end TextAdventure.Ron
