import TextAdventure.Play.SceneView
import TextAdventure.Play.Score

/-!
# Moving through the world

Directions and their abbreviations, finding an exit by a direction or by words,
and going through it.
-/

namespace TextAdventure

/-- The directions that a single word can name. -/
def directions : List String := [
  "north", "south", "east", "west", "northeast", "northwest", "southeast", "southwest",
  "up", "down", "in", "out"]

/-- A direction in small letters with its abbreviation written out. -/
def normalizeDirection (token : String) : String :=
  match Text.lower (Text.trim token) with
  | "n" => "north"
  | "s" => "south"
  | "e" => "east"
  | "w" => "west"
  | "ne" => "northeast"
  | "nw" => "northwest"
  | "se" => "southeast"
  | "sw" => "southwest"
  | "u" => "up"
  | "d" => "down"
  | other => other

/-- The first exit in whose description, or in the name of whose target, the
words occur. -/
def World.exitByWords (w : World) (wanted : String) :
    List Exit → Except WorldError (Option Exit)
  | [] => return none
  | e :: rest => do
    let target ← w.scene e.destination
    if Text.contains wanted (Text.lower e.description)
        || Text.contains wanted (Text.lower target.name) then return some e
    exitByWords w wanted rest

/-- The exit of a scene that a token means: the exit in that direction, or, for a
token that is no direction, the first exit in whose words it occurs. -/
def World.findExit (w : World) (scene : Id) (token : String) :
    Except WorldError (Option Exit) := do
  let scene ← w.scene scene
  let wanted := normalizeDirection token
  if wanted.isEmpty then return none
  match scene.exits.find? (normalizeDirection ·.direction == wanted) with
  | some e => return some e
  | none => if wanted ∈ directions then return none else w.exitByWords wanted scene.exits

/-- Whether an exit can be taken, or what is said if not. -/
inductive Passage where
  | allowed
  | blocked (message : String)
deriving DecidableEq, Repr

/-- What the player sees and earns on arriving in a scene. -/
structure Arrival where
  description : String
  points : Nat
  achievements : List String
deriving DecidableEq, Repr

/-- The largest number of points that an exit can add to the score. -/
def exitPointsLimit : Nat := 2147483647

namespace GameState

/-- Whether the exit can be taken: there must be light and its condition must
hold. -/
def passage (s : GameState) (w : World) (messages : Messages) (e : Exit) :
    Except WorldError Passage := do
  if !(← s.hasLight w) then return .blocked messages.tooDarkToMove
  if !e.precondition.holds s.flags then
    return .blocked (e.barredMessage.getD messages.cantGo)
  return .allowed

/-- Makes a scene the current one and describes it; the description is chosen
before the scene counts as visited. If the scene cannot be described the player
is there all the same. -/
def enterScene (s : GameState) (w : World) (scene : Id) :
    Except WorldError String × GameState :=
  match w.scene scene with
  | .error e => (.error e, s)
  | .ok _ =>
    let s := { s with currentScene := scene }
    match s.relit w with
    | .error e => (.error e, s)
    | .ok s =>
      match s.sceneView w scene with
      | .error e => (.error e, s)
      | .ok view => (.ok view.text, { s with flags := s.flags.insert (.sceneVisited scene) })

/-- Goes through an exit. Its points are given on the first arrival in its
target. -/
def traverse (s : GameState) (w : World) (e : Exit) : Except WorldError Arrival × GameState :=
  match s.enterScene w e.destination with
  | (.error cause, s) => (.error cause, s)
  | (.ok description, s) =>
    if e.score = 0 then (.ok ⟨description, 0, []⟩, s)
    else
      match s.awardOnce w (.exitScored e.destination) (min e.score exitPointsLimit : Nat) with
      | none => (.ok ⟨description, 0, []⟩, s)
      | some (s, messages) => (.ok ⟨description, e.score, messages⟩, s)

end GameState

end TextAdventure
