import TextAdventure.Ron.Number
import TextAdventure.Ron.Value

/-!
# Values that are passed over

A record may have fields that nobody asks for. What is written for them must still
be a value of some shape, and must not be nested too deeply: brackets of every kind
take up a level, and so does each element inside them.
-/

namespace TextAdventure.Ron

/-- Names that are values by themselves. -/
def standingNames : List String :=
  ["true", "false", "None", "inf", "inff32", "inff64", "NaN", "NaNf32", "NaNf64"]

/-- The name announces a value that may be left out. -/
def Name.isSome (n : Name) : Bool := n == ⟨"Some", false⟩

/-- The name can stand in front of parentheses. -/
def Name.canLead (n : Name) : Bool := n.isRaw || !(standingNames.contains n.text)

def Value.isName : Value → Bool
  | .name _ => true
  | _ => false

mutual

/-- The value can be passed over where there is room for so many levels. One that
is `opened` stands in parentheses that take the place of its own, so that those
that it has are further elements. -/
def Value.isSkippable (rules : Rules) (opened : Bool) (room : Nat) : Value → Bool
  | .text _ | .unit | .other => true
  | .number t => isNumber t
  | .name n => !n.isSome
  | .bareSome v => rules.implicitSome && 0 < room && v.isSkippable rules false (room - 1)
  | .group name items =>
    if name.any Name.isSome then
      items.length == 1 && areSkippable rules rules.unwrappedSome room items
    else
      let levels := if opened then 3 else 1
      name.all Name.canLead && levels ≤ room && areSkippable rules false (room - levels) items
  | .record name fields =>
    !opened && name.all (fun n => n.canLead && !n.isSome) && 0 < room
      && (fields.head?.any (·.1.isName)) && pairsSkippable rules (room - 1) fields
  | .list items => 0 < room && areSkippable rules false (room - 1) items
  | .map entries => 0 < room && pairsSkippable rules (room - 1) entries

/-- All these values can be passed over, one level deeper. -/
def areSkippable (rules : Rules) (opened : Bool) (room : Nat) : List Value → Bool
  | [] => true
  | v :: rest =>
    0 < room && v.isSkippable rules opened (room - 1) && areSkippable rules opened room rest

/-- All these keys and values can be passed over, one level deeper. -/
def pairsSkippable (rules : Rules) (room : Nat) : List (Value × Value) → Bool
  | [] => true
  | (key, v) :: rest =>
    0 < room && key.isSkippable rules false (room - 1) && v.isSkippable rules false (room - 1)
      && pairsSkippable rules room rest

end

end TextAdventure.Ron
