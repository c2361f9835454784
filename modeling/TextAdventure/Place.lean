/-!
# Places

Where an object can be: lying in a scene, inside another object, carried by the
player, or nowhere at all.
-/

namespace TextAdventure

/-- The name by which scenes, objects and achievements are referred to. -/
abbrev Id := String

/-- Where an object is. -/
inductive Place where
  | scene (id : Id)
  | container (id : Id)
  | inventory
  | nowhere
deriving DecidableEq, Repr, Inhabited

def Place.text : Place → String
  | .scene id => "scene '" ++ id ++ "'"
  | .container id => "container '" ++ id ++ "'"
  | .inventory => "inventory"
  | .nowhere => "nowhere"

end TextAdventure
