import TextAdventure.Condition

/-!
# Descriptions

Scenes, objects and interactions are described by one kind of table: a text,
texts that replace it under conditions, one for the dark and one for return
visits.
-/

namespace TextAdventure

/-- A text and those that replace it. -/
structure Description where
  text : String
  overrides : List (Condition × String) := []
  dark : Option String := none
  visited : Option String := none
deriving Repr, Inhabited

/-- The text to show: in the dark the dark one, if there is one; else that of
the first override that holds; else on a return visit the one for it, if there
is one; else the plain one. -/
def Description.select (d : Description) (flags : FlagSet) (lit visited : Bool) : String :=
  match (if lit then none else d.dark) with
  | some text => text
  | none =>
    match d.overrides.find? (·.1.holds flags) with
    | some (_, text) => text
    | none => if visited then d.visited.getD d.text else d.text

end TextAdventure
