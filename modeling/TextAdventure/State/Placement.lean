import TextAdventure.Repetition
import TextAdventure.State.Basic
import TextAdventure.World.Basic

/-!
# Placing objects

How an object gets into a holder and out of it, and the state in which a game
begins. Nothing here asks whether the player may do so; the ids must exist and a
holder must be a container.
-/

namespace TextAdventure

namespace GameState

/-- Puts an object that has no holder into a place. -/
def place (s : GameState) (w : World) (object : Id) (destination : Place) :
    Except WorldError GameState := do
  discard (w.object object)
  match destination with
  | .inventory => return { s with inventory := s.inventory.insert object }
  | .container holder =>
    if (← w.object holder).isContainer then
      return { s with
        containers := s.containers.insert holder ((s.containers.getD holder ∅).insert object) }
    else throw (.notAContainer holder)
  | .scene scene =>
    discard (w.scene scene)
    return { s with scenes := s.scenes.insert scene ((s.scenes.getD scene ∅).insert object) }
  | .nowhere => return s

/-- Takes an object out of its holder. -/
def unplace (s : GameState) (object : Id) : GameState :=
  match s.locationOf object with
  | .inventory => { s with inventory := s.inventory.erase object }
  | .container holder => { s with containers := s.containers.modify holder (·.erase object) }
  | .scene scene => { s with scenes := s.scenes.modify scene (·.erase object) }
  | .nowhere => s

/-- All objects that are held, holder by holder. -/
def held (s : GameState) : List Id :=
  s.inventory.toList ++ s.containers.toList.flatMap (·.2.toList)
    ++ s.scenes.toList.flatMap (·.2.toList)

/-- No object may have two holders. -/
def checkSinglePlacement (s : GameState) : Except WorldError Unit :=
  match repeated s.held with
  | [] => .ok ()
  | object :: _ => .error (.multiplePlacement object)

/-! ## The beginning of a game -/

/-- The state in a scene in which all holders of the world are empty. -/
def withHolders (w : World) (scene : Id) : GameState :=
  { blank scene with
    containers := (w.objects.filter fun _ o => o.isContainer).map fun _ _ => ∅
    scenes := w.scenes.map fun _ _ => ∅ }

def startFlags (o : Object) (id : Id) : List Flag :=
  (match o.container with
    | some c => (if c.isOpen then [.objectOpen id] else [])
        ++ (if c.isLocked then [.objectLocked id] else [])
    | none => [])
    ++ (match o.lightSource with
      | some l => if l.on then [.lightOn id] else []
      | none => [])

/-- Puts an object where it starts, with the flags it starts with. -/
def placeAtStart (w : World) (s : GameState) (entry : Id × Object) :
    Except WorldError GameState := do
  let (id, o) := entry
  let s ← s.place w id o.start
  return { s with flags := (startFlags o id).foldl .insert s.flags }

/-- The state of a new game: the player in the start scene, every object where
it starts, and the initial flags. -/
def new (w : World) : Except WorldError GameState := do
  discard (w.scene w.startScene)
  let s ← w.objects.toList.foldlM (placeAtStart w) (withHolders w w.startScene)
  return { s with flags := w.initialFlags.foldl .insert s.flags }

end GameState

end TextAdventure
