import TextAdventure.Settings
import TextAdventure.State.Basic
import TextAdventure.World.Basic

/-!
# Light

A light source is off, on or dead. There is light in a scene that has its own,
and wherever the player carries a source that is on, at any depth. Each turn
uses up the sources that are on; one that has lasted as long as its battery is
dead for good.

Whether there is light is also kept as a flag (`Flag.light`), which `relit`
brings up to date.
-/

namespace TextAdventure

/-- The state of a light source. -/
inductive Lamp where
  | off
  | on
  | dead
deriving DecidableEq, Repr

/-- Why something cannot be switched. Objects are given by their names. -/
inductive LightError where
  | notALightSource (name : String)
  | dead (name : String)
  | alreadyOn (name : String)
  | alreadyOff (name : String)
  | world (cause : WorldError)
deriving DecidableEq, Repr

/-- The reason as the player reads it. -/
def LightError.message : LightError → String
  | .notALightSource name => "The " ++ name ++ " isn't something you can switch."
  | .dead name => "The " ++ name ++ " has no power left."
  | .alreadyOn name => "The " ++ name ++ " is already on."
  | .alreadyOff name => "The " ++ name ++ " is already off."
  | .world cause => cause.message

instance : MonadLift (Except WorldError) (Except LightError) := ⟨(·.mapError .world)⟩

/-- What happens to a light source as time passes. -/
inductive LightEvent where
  | lowBattery (object : Id) (remaining : Nat)
  | depleted (object : Id)
deriving DecidableEq, Repr

namespace GameState

/-- The state of a light source, read from the flags. -/
def lampOf (s : GameState) (object : Id) : Lamp :=
  if s.flags.has (.lightDead object) then .dead
  else if s.flags.has (.lightOn object) then .on
  else .off

/-- One of the objects is a light source that is on. -/
def anyShines (s : GameState) (w : World) : List Id → Except WorldError Bool
  | [] => return false
  | id :: rest => do
    if (← w.object id).isLightSource && s.lampOf id == .on then return true
    anyShines s w rest

/-- There is light where the player is. -/
def hasLight (s : GameState) (w : World) : Except WorldError Bool := do
  if (← w.scene s.currentScene).naturalLight then return true
  s.anyShines w (s.inventoryTree.map (·.1))

/-- The state with the flag for light brought up to date. -/
def relit (s : GameState) (w : World) : Except WorldError GameState := do
  return { s with flags := s.flags.assign .light (← s.hasLight w) }

def switchOn (s : GameState) (w : World) (object : Id) : Except LightError GameState := do
  let o ← w.object object
  if !o.isLightSource then throw (.notALightSource o.name)
  match s.lampOf object with
  | .dead => throw (.dead o.name)
  | .on => throw (.alreadyOn o.name)
  | .off => GameState.relit { s with flags := s.flags.insert (.lightOn object) } w

def switchOff (s : GameState) (w : World) (object : Id) : Except LightError GameState := do
  let o ← w.object object
  if !o.isLightSource then throw (.notALightSource o.name)
  match s.lampOf object with
  | .on => GameState.relit { s with flags := s.flags.erase (.lightOn object) } w
  | .off | .dead => throw (.alreadyOff o.name)

/-- Lets a light source that is on use up one turn of its life, and kills it at
the end of its life. -/
def burn (policy : BatteryPolicy) (s : GameState) (id : Id) (source : Authored.LightSource) :
    GameState × List LightEvent :=
  let life := source.batteryLife.getD policy.defaultLife
  let used := addCapped (s.usageOf id) 1
  let s := { s with lightUsage := s.lightUsage.insert id used }
  if life ≤ used then
    ({ s with flags := (s.flags.erase (.lightOn id)).insert (.lightDead id) }, [.depleted id])
  else
    match policy.lowWarning with
    | some warning => (s, if life - used = warning then [.lowBattery id warning] else [])
    | none => (s, [])

/-- Lets one object use up a turn, if it is a light source that is on. -/
def burnObject (policy : BatteryPolicy) (run : GameState × List LightEvent)
    (entry : Id × Object) : GameState × List LightEvent :=
  let (s, events) := run
  let (id, o) := entry
  match o.lightSource with
  | some source =>
    if s.lampOf id = .on then
      let (s, more) := burn policy s id source
      (s, events ++ more)
    else run
  | none => run

/-- Lets a turn pass for every light source that is on. -/
def tick (s : GameState) (w : World) (policy : BatteryPolicy) :
    Except WorldError (GameState × List LightEvent) := do
  let (s, events) := w.objects.toList.foldl (burnObject policy) (s, [])
  return (← s.relit w, events)

end GameState

end TextAdventure
