import TextAdventure.Play.Visibility

/-!
# A scene as the player finds it

The scene as it is written, together with what the state says about its objects
and exits, and the text that the player reads.
-/

namespace TextAdventure

/-- An object in a scene. `inside` is the name of the container around it. -/
structure ObjectView where
  id : Id
  name : String
  visible : Bool
  isOpen : Bool
  isLocked : Bool
  revealed : Bool
  inside : Option String
deriving DecidableEq, Repr

/-- An exit of a scene. -/
structure ExitView where
  direction : String
  destination : Id
  destinationName : String
  passable : Bool
  visited : Bool
deriving DecidableEq, Repr

/-- A scene as the player finds it. -/
structure SceneView where
  id : Id
  name : String
  description : String
  lit : Bool
  visited : Bool
  objects : List ObjectView
  exits : List ExitView
deriving DecidableEq, Repr

def ObjectView.label (o : ObjectView) : String :=
  match o.inside with
  | some holder => o.name ++ " (in the " ++ holder ++ ")"
  | none => o.name

/-- The text of a scene: its name and description, and with light what is to be
seen and where one can go. -/
def SceneView.text (v : SceneView) : String :=
  let head := v.name ++ "\n" ++ v.description
  if !v.lit then head
  else
    let names := (v.objects.filter (·.visible)).map ObjectView.label
    let directions := v.exits.map (·.direction)
    head
      ++ (if names.isEmpty then "" else "\nYou see: " ++ ", ".intercalate names ++ ".")
      ++ (if directions.isEmpty then ""
        else "\nExits: " ++ ", ".intercalate directions ++ ".")

namespace GameState

def objectView (s : GameState) (w : World) (lit : Bool) (entry : Id × Option Id) :
    Except WorldError ObjectView := do
  let (id, holder) := entry
  let o ← w.object id
  let visible ← s.isVisibleIn w lit id
  let inside ← holder.mapM fun h => return (← w.object h).name
  return { id, name := o.name, visible, isOpen := s.isOpen id, isLocked := s.isLocked id,
           revealed := s.flags.has (.objectRevealed id), inside }

def exitView (s : GameState) (w : World) (e : Exit) : Except WorldError ExitView := do
  let target ← w.scene e.destination
  return { direction := e.direction, destination := e.destination, destinationName := target.name,
           passable := e.precondition.holds s.flags, visited := s.isVisited e.destination }

/-- There is light in a scene. One other than the current one is lit when it has
light of its own. -/
def lightIn (s : GameState) (w : World) (id : Id) (scene : Scene) : Except WorldError Bool :=
  if s.currentScene = id then s.hasLight w else .ok scene.naturalLight

def sceneView (s : GameState) (w : World) (id : Id) : Except WorldError SceneView := do
  let scene ← w.scene id
  let lit ← s.lightIn w id scene
  let visited := s.isVisited id
  let objects ← (s.sceneTree id).mapM (s.objectView w lit)
  let exits ← (scene.exits.filter (!·.hidden)).mapM (s.exitView w)
  return { id := scene.id, name := scene.name,
           description := scene.description.select s.flags lit visited,
           lit, visited, objects, exits }

end GameState

end TextAdventure
