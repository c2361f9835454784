import TextAdventure.Play.Visibility

/-!
# What the player reads

The texts about single objects and about what is carried.
-/

namespace TextAdventure.GameState

/-- The names of the visible objects directly inside a container. -/
def visibleContents (s : GameState) (w : World) (container : Id) :
    Except WorldError (List String) := do
  let ids ← s.visibleAmong w (← s.hasLight w) (s.contentsOf container)
  ids.mapM fun id => return (← w.object id).name

/-- The state of a container, at the end of its description. -/
def containerText (s : GameState) (w : World) (o : Object) : Except WorldError String := do
  if !o.isContainer then return ""
  if !s.isOpen o.id then return " The " ++ o.name ++ " is closed."
  let contents ← s.visibleContents w o.id
  if contents.isEmpty then return " The " ++ o.name ++ " is empty."
  return " The " ++ o.name ++ " contains: " ++ ", ".intercalate contents ++ "."

/-- The state of a light source, at the end of its description. -/
def lampText (s : GameState) (o : Object) : String :=
  if !o.isLightSource then ""
  else
    match s.lampOf o.id with
    | .on => " It is on."
    | .off => " It is off."
    | .dead => " It is dead."

def examineText (s : GameState) (w : World) (o : Object) : Except WorldError String := do
  let lit ← s.hasLight w
  return o.description.select s.flags lit false ++ (← s.containerText w o) ++ s.lampText o

/-- One line of the list of what is carried; nothing for an object that is in a
container and not seen. -/
def carriedLine (s : GameState) (w : World) (lit : Bool) (entry : Id × Option Id) :
    Except WorldError String := do
  let (id, holder) := entry
  if holder.isSome then
    if !(← s.isVisibleIn w lit id) then return ""
  let o ← w.object id
  let indent := if holder.isSome then "    " else "  "
  let status := if o.isLightSource && s.lampOf id == .on then " (providing light)" else ""
  return "\n" ++ indent ++ o.name ++ status

/-- What the player carries, with what can be seen in it. -/
def inventoryText (s : GameState) (w : World) (emptyHanded : String) :
    Except WorldError String := do
  let tree := s.inventoryTree
  if tree.isEmpty then return emptyHanded
  let lit ← s.hasLight w
  return "You are carrying:" ++ String.join (← tree.mapM (s.carriedLine w lit))

end TextAdventure.GameState
