import TextAdventure.Play.Light

/-!
# What the player sees

An object is seen when there is light or it needs none, when it is carried or
shows or has been revealed, and when every container around it is open.

A name is looked for among the things carried and then among those in the scene;
an object that is seen is preferred to one that is not.
-/

namespace TextAdventure.GameState

/-- The innermost closed container around an object, and whether it is locked. -/
def closedAround (s : GameState) (object : Id) : Option (Id × Bool) :=
  ((s.enclosing object).find? fun holder => !s.isOpen holder).map fun holder =>
    (holder, s.isLocked holder)

/-- The object is seen in this light. -/
def isVisibleIn (s : GameState) (w : World) (lit : Bool) (object : Id) :
    Except WorldError Bool := do
  let o ← w.object object
  return (!o.requiresLight || lit)
    && (s.carries object || o.visibleOnEntry || s.flags.has (.objectRevealed object))
    && (s.closedAround object).isNone

/-- The object is seen in the light there is. -/
def isVisible (s : GameState) (w : World) (object : Id) : Except WorldError Bool := do
  s.isVisibleIn w (← s.hasLight w) object

/-- The first object of a list with this name that is seen, or else the first
with this name; `unseen` is the first found so far. -/
def findAmong (s : GameState) (w : World) (lit : Bool) (name : String) (unseen : Option Id) :
    List Id → Except WorldError (Option Id)
  | [] => return unseen
  | id :: rest => do
    if !(← w.object id).isNamed name then findAmong s w lit name unseen rest
    else if ← s.isVisibleIn w lit id then return some id
    else findAmong s w lit name (unseen.or (some id)) rest

/-- Everything the player carries, then everything in the current scene. -/
def present (s : GameState) : List Id :=
  (s.inventoryTree ++ s.sceneTree s.currentScene).map (·.1)

/-- The object that a name stands for here. -/
def findPresent (s : GameState) (w : World) (name : String) :
    Except WorldError (Option Id) := do
  s.findAmong w (← s.hasLight w) name none s.present

/-- The objects of a list that are seen in this light. -/
def visibleAmong (s : GameState) (w : World) (lit : Bool) (ids : List Id) :
    Except WorldError (List Id) := ids.filterM (s.isVisibleIn w lit)

/-- The objects in the current scene that the player sees. -/
def visibleInScene (s : GameState) (w : World) : Except WorldError (List Id) := do
  s.visibleAmong w (← s.hasLight w) ((s.sceneTree s.currentScene).map (·.1))

end TextAdventure.GameState
