import Std.Data.ExtTreeMap
import Std.Data.ExtTreeSet
import TextAdventure.Flag.Set

/-!
# The state of a game

Everything that changes during a game: where the player is, the flags, which
holder has which objects, the score, the turns, and how long each light source
has been on. That a container is open, a scene has been visited or there is
light is always read from the flags.

`locationOf` turns the holders' lists around, `enclosing` follows an object out
of its containers, and `sceneTree` and `inventoryTree` list everything in a
scene or in the player's hands at any depth.
-/

namespace TextAdventure

/-- The state of a game. -/
structure GameState where
  currentScene : Id
  flags : FlagSet
  inventory : Std.ExtTreeSet Id
  containers : Std.ExtTreeMap Id (Std.ExtTreeSet Id)
  scenes : Std.ExtTreeMap Id (Std.ExtTreeSet Id)
  score : Nat
  turnCount : UInt32
  lightUsage : Std.ExtTreeMap Id Nat

namespace GameState

/-- The state in a scene in which nothing else has happened. -/
def blank (scene : Id) : GameState where
  currentScene := scene
  flags := .empty
  inventory := ∅
  containers := ∅
  scenes := ∅
  score := 0
  turnCount := 0
  lightUsage := ∅

instance : Inhabited GameState := ⟨blank ""⟩

/-- The number of turns taken. They are counted with 32 bits, and the count starts over after the
largest number. -/
def turns (s : GameState) : Nat := s.turnCount.toNat

/-! ## Holders -/

/-- The player carries the object itself. -/
def carries (s : GameState) (object : Id) : Bool := s.inventory.contains object

/-- What is directly inside an object. -/
def contentsOf (s : GameState) (container : Id) : List Id :=
  (s.containers.getD container ∅).toList

def sceneContents (s : GameState) (scene : Id) : List Id := (s.scenes.getD scene ∅).toList

/-- What a place directly holds. -/
def contentsAt (s : GameState) : Place → List Id
  | .inventory => s.inventory.toList
  | .container id => s.contentsOf id
  | .scene id => s.sceneContents id
  | .nowhere => []

/-- The first holder, in the order of the ids, that lists the object. -/
def holderIn (holders : Std.ExtTreeMap Id (Std.ExtTreeSet Id)) (object : Id) : Option Id :=
  (holders.toList.find? fun holder => holder.2.contains object).map (·.1)

/-- Where an object is. -/
def locationOf (s : GameState) (object : Id) : Place :=
  if s.carries object then .inventory
  else
    match holderIn s.containers object with
    | some container => .container container
    | none =>
      match holderIn s.scenes object with
      | some scene => .scene scene
      | none => .nowhere

/-- The containers around an object, innermost first, leaving out those found
already. Each step finds a container that was not found before, so that the
number of containers bounds the steps. -/
def enclosingFrom (s : GameState) : Nat → List Id → Id → List Id
  | 0, _, _ => []
  | steps + 1, found, object =>
    match s.locationOf object with
    | .container holder =>
      if holder ∈ found then [] else holder :: enclosingFrom s steps (holder :: found) holder
    | _ => []

/-- The containers around an object, innermost first. -/
def enclosing (s : GameState) (object : Id) : List Id :=
  s.enclosingFrom s.containers.size [] object

/-- Where the outermost container around an object is, or the object itself when
there is none. -/
def rootLocation (s : GameState) (object : Id) : Place :=
  match s.locationOf ((s.enclosing object).getLast?.getD object) with
  | .container _ => .nowhere
  | place => place

/-- The object is carried or in the current scene, at any depth. -/
def isPresent (s : GameState) (object : Id) : Bool :=
  match s.rootLocation object with
  | .inventory => true
  | .scene scene => scene == s.currentScene
  | _ => false

/-- The player could reach into a place now. -/
def isReachable (s : GameState) : Place → Bool
  | .inventory => true
  | .scene scene => scene == s.currentScene
  | .container holder => s.isPresent holder
  | .nowhere => false

/-! ## Trees -/

/-- Adds an object and everything inside it to a list, each with the container
around it; the list is in reverse. An object that is listed already is passed
over, so that the number of containers bounds the depth. -/
def collectFrom (s : GameState) :
    Nat → Option Id → List (Id × Option Id) → Id → List (Id × Option Id)
  | depth, holder, found, object =>
    if found.any (·.1 == object) then found
    else
      match depth with
      | 0 => (object, holder) :: found
      | depth + 1 =>
        (s.contentsOf object).foldl (collectFrom s depth (some object))
          ((object, holder) :: found)

/-- Some objects and everything inside them, each with the container around it. -/
def treeOf (s : GameState) (roots : List Id) : List (Id × Option Id) :=
  (roots.foldl (s.collectFrom s.containers.size none) []).reverse

/-- Everything in a scene. -/
def sceneTree (s : GameState) (scene : Id) : List (Id × Option Id) :=
  s.treeOf (s.sceneContents scene)

/-- Everything the player carries. -/
def inventoryTree (s : GameState) : List (Id × Option Id) := s.treeOf s.inventory.toList

/-! ## Facts read from the flags -/

def isOpen (s : GameState) (container : Id) : Bool := s.flags.has (.objectOpen container)

/-- The container is locked. -/
def isLocked (s : GameState) (container : Id) : Bool := s.flags.has (.objectLocked container)

def isVisited (s : GameState) (scene : Id) : Bool := s.flags.has (.sceneVisited scene)

/-- The scenes that have been visited. -/
def visitedScenes (s : GameState) : List Id :=
  s.flags.toList.filterMap fun
    | .sceneVisited id => some id
    | _ => none

/-- The number of turns for which a light source has been on. -/
def usageOf (s : GameState) (object : Id) : Nat := s.lightUsage.getD object 0

end GameState

end TextAdventure
