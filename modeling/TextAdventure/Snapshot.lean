import TextAdventure.Flag.Name
import TextAdventure.Play.Light
import TextAdventure.State.Placement

/-!
# Snapshots

A flat copy of the state of a game, with flags as text, that can be written to a
file. `GameState.snapshot` takes one; `Snapshot.restore` makes a state from one
that fits the world: it speaks of this world, names only what exists, gives
every object one holder at most and puts no container inside itself.
-/

namespace TextAdventure

/-- The version that is written into snapshots and into the names of their
files. -/
def engineVersion : String := "0.3.0"

/-- A flat copy of a state. -/
structure Snapshot where
  version : String
  world : String
  currentScene : Id
  flags : Std.ExtTreeMap String Bool
  inventory : List Id
  containers : Std.ExtTreeMap Id (List Id)
  scenes : Std.ExtTreeMap Id (List Id)
  score : Nat
  turnCount : UInt32
  visited : List Id
  lightUsage : Std.ExtTreeMap Id Nat

instance : Inhabited Snapshot := ⟨⟨"", "", "", ∅, [], ∅, ∅, 0, 0, [], ∅⟩⟩

/-- The number of turns taken. -/
def Snapshot.turns (snap : Snapshot) : Nat := snap.turnCount.toNat

/-- The holders that hold something, with what they hold. -/
def occupied (holders : Std.ExtTreeMap Id (Std.ExtTreeSet Id)) :
    Std.ExtTreeMap Id (List Id) :=
  (holders.filter fun _ items => !items.isEmpty).map fun _ items => items.toList

/-- A flat copy of the state. -/
def GameState.snapshot (s : GameState) (w : World) : Snapshot where
  version := engineVersion
  world := w.slug
  currentScene := s.currentScene
  flags := .ofList (s.flags.toList.map fun flag => (flag.text, true))
  inventory := s.inventory.toList
  containers := occupied s.containers
  scenes := occupied s.scenes
  score := s.score
  turnCount := s.turnCount
  visited := s.visitedScenes
  lightUsage := s.lightUsage

namespace Snapshot

def knowObject (w : World) (context : String) (id : Id) : Except WorldError Unit :=
  if w.hasObject id then .ok () else .error (.snapshot (.unknownObject context id))

def knowScene (w : World) (context : String) (id : Id) : Except WorldError Unit :=
  if w.hasScene id then .ok () else .error (.snapshot (.unknownScene context id))

/-- What a flag speaks of must exist. -/
def checkFlag (w : World) (flag : Flag) : Except WorldError Unit :=
  let context := "flag '" ++ flag.text ++ "'"
  match flag with
  | .objectOpen id | .objectLocked id | .objectRevealed id | .lightOn id | .lightDead id
  | .interactionScored id _ => knowObject w context id
  | .sceneVisited id | .exitScored id => knowScene w context id
  | .light | .achievement _ | .custom _ => .ok ()

def restoreFlag (w : World) (flags : FlagSet) (entry : String × Bool) :
    Except WorldError FlagSet := do
  let flag := Flag.ofText entry.1
  checkFlag w flag
  return flags.assign flag entry.2

def restoreVisited (w : World) (flags : FlagSet) (scene : Id) : Except WorldError FlagSet := do
  knowScene w "visited list" scene
  return flags.insert (.sceneVisited scene)

/-- The objects that a holder of a snapshot lists, all of which must exist. -/
def restoreItems (w : World) (context : String) (items : Std.ExtTreeSet Id) (list : List Id) :
    Except WorldError (Std.ExtTreeSet Id) :=
  list.foldlM (fun items id => do
    knowObject w context id
    return items.insert id) items

def restoreContainer (w : World) (containers : Std.ExtTreeMap Id (Std.ExtTreeSet Id))
    (entry : Id × List Id) : Except WorldError (Std.ExtTreeMap Id (Std.ExtTreeSet Id)) := do
  let (holder, list) := entry
  knowObject w "container list" holder
  if !(← w.object holder).isContainer then
    throw (.snapshot (.holderNotContainer holder))
  let items ← restoreItems w ("container '" ++ holder ++ "'") (containers.getD holder ∅) list
  return containers.insert holder items

def restoreScene (w : World) (scenes : Std.ExtTreeMap Id (Std.ExtTreeSet Id))
    (entry : Id × List Id) : Except WorldError (Std.ExtTreeMap Id (Std.ExtTreeSet Id)) := do
  let (scene, list) := entry
  knowScene w "scene list" scene
  let items ← restoreItems w ("scene '" ++ scene ++ "'") (scenes.getD scene ∅) list
  return scenes.insert scene items

/-- Takes over the use of one light source of a snapshot. -/
def restoreUsage (w : World) (usage : Std.ExtTreeMap Id Nat) (entry : Id × Nat) :
    Except WorldError (Std.ExtTreeMap Id Nat) := do
  let (id, used) := entry
  knowObject w "light usage" id
  if !(← w.object id).isLightSource then throw (.snapshot (.usageOfNoLightSource id))
  return usage.insert id used

/-- No object may have two holders and no container may be inside itself. -/
def checkHolders (s : GameState) : Except WorldError Unit := do
  match repeated s.held with
  | object :: _ => throw (.snapshot (.heldTwice object))
  | [] =>
    match s.containers.keys.find? fun id => (s.enclosing id).contains id with
    | some container => throw (.snapshot (.insideItself container))
    | none => return ()

/-- The state that a snapshot is a copy of, if it fits the world. -/
def restore (w : World) (snap : Snapshot) : Except WorldError GameState := do
  if !w.slug.isEmpty && !snap.world.isEmpty && snap.world != w.slug then
    throw (.snapshot (.otherWorld snap.world w.slug))
  knowScene w "current scene" snap.currentScene
  let flags ← snap.flags.toList.foldlM (restoreFlag w) .empty
  let flags ← snap.visited.foldlM (restoreVisited w) flags
  let blank := GameState.withHolders w snap.currentScene
  let inventory ← restoreItems w "inventory" ∅ snap.inventory
  let containers ← snap.containers.toList.foldlM (restoreContainer w) blank.containers
  let scenes ← snap.scenes.toList.foldlM (restoreScene w) blank.scenes
  let s := { blank with
    flags, inventory, containers, scenes, score := snap.score, turnCount := snap.turnCount }
  checkHolders s
  let lightUsage ← snap.lightUsage.toList.foldlM (restoreUsage w) ∅
  { s with lightUsage }.relit w

end Snapshot

end TextAdventure
