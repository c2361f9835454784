import TextAdventure.Play.Command
import TextAdventure.Play.Container
import TextAdventure.Play.Movement
import TextAdventure.Play.Report

/-!
# Acting on objects

A command about an object runs in two stages. `plan` looks up the nouns and asks
everything that can refuse the command, without changing anything: whether the
objects are seen, whether the verb applies, what its interaction needs, and
whether the built-in part would go through. `Action.apply` then brings about the
effects, one after the other: the built-in change of state and the flags, the
score, what is revealed, the moves, and last a change of scene. Effects that are
refused on the way leave no state behind, so that the state before them stands.
-/

namespace TextAdventure

/-- A command about an object that nothing refuses so far. `entry` is what the
verb does to the object, if it is written down; `builtin` tells whether the verb
also does what it does to every such object. -/
structure Action where
  verb : Verb
  object : Object
  target : Option Object
  entry : Option Interaction
  builtin : Bool

/-- Why an effect cannot be brought about. -/
inductive Refusal where
  | player (message : String)
  | world (cause : WorldError)
deriving DecidableEq, Repr

def Refusal.ofContainer : ContainerError → Refusal
  | .world cause => .world cause
  | reason => .player reason.message

def Refusal.ofLight : LightError → Refusal
  | .world cause => .world cause
  | reason => .player reason.message

instance : MonadLift (Except WorldError) (Except Refusal) := ⟨(·.mapError .world)⟩
instance : MonadLift (Except ContainerError) (Except Refusal) := ⟨(·.mapError .ofContainer)⟩
instance : MonadLift (Except LightError) (Except Refusal) := ⟨(·.mapError .ofLight)⟩

/-- The verb does something to every object of this kind. -/
def Verb.appliesTo (verb : Verb) (o : Object) : Bool :=
  match verb with
  | .take => o.takeable
  | .drop | .put | .examine => true
  | .open | .close | .lock | .unlock => o.isContainer
  | .turnOn | .turnOff => o.isLightSource
  | .other _ => false

/-- What is said when the verb does nothing to the object. -/
def Verb.unsupported (messages : Messages) (verb : Verb) (o : Object) : String :=
  match verb with
  | .take => (ContainerError.notTakeable o.name).message
  | .turnOn | .turnOff => (LightError.notALightSource o.name).message
  | _ => fill messages.cantDo verb.text o.name

/-! ## Looking up nouns -/

/-- What a noun stands for, or what is said if nothing can be done to it. -/
inductive Located where
  | object (o : Object)
  | refused (message : String)

/-- Looks up a noun among what is present and sees whether it can be acted on. -/
def GameState.locate (s : GameState) (w : World) (messages : Messages) (noun : String) :
    Except WorldError Located := do
  match ← s.findPresent w noun with
  | none => return .refused (fill messages.notHere "" noun)
  | some id =>
    let o ← w.object id
    let lit ← s.hasLight w
    if o.requiresLight && !lit then return .refused messages.tooDarkToSee
    match s.closedAround id with
    | some (holder, locked) =>
      let name ← w.nameOf holder
      let reason := if locked then ContainerError.locked name else .closed name
      return .refused reason.message
    | none =>
      if ← s.isVisibleIn w lit id then return .object o
      else return .refused (fill messages.notHere "" noun)

/-! ## Effects -/

namespace Action

/-- The built-in change of the object's own state. -/
def builtinState (a : Action) (w : World) (s : GameState) : Except Refusal GameState :=
  match a.verb with
  | .open => liftM (s.openContainer w a.object.id)
  | .close => liftM (s.closeContainer w a.object.id)
  | .lock => liftM (s.lockContainer w a.object.id)
  | .unlock => liftM (s.unlockContainer w a.object.id)
  | .turnOn => liftM (s.switchOn w a.object.id)
  | .turnOff => liftM (s.switchOff w a.object.id)
  | _ => .ok s

def builtinMove (a : Action) (w : World) (s : GameState) : Except Refusal GameState :=
  match a.verb with
  | .take => liftM (s.pickUp w a.object.id)
  | .drop => liftM (s.putDown w a.object.id (.scene s.currentScene))
  | .put =>
    match a.target with
    | some target =>
      if target.isContainer then liftM (s.putDown w a.object.id (.container target.id))
      else .error (.player (ContainerError.notAContainer target.name).message)
    | none => .ok s
  | _ => .ok s

/-- The built-in part as a whole, as if there were no interaction. -/
def builtinPart (a : Action) (w : World) (s : GameState) : Except Refusal GameState := do
  a.builtinMove w (← a.builtinState w s)

/-- Reveals objects, all of which must exist. -/
def reveal (w : World) (s : GameState) : List Id → Except WorldError GameState
  | [] => return s
  | id :: rest => do
    discard (w.object id)
    reveal w { s with flags := s.flags.insert (.objectRevealed id) } rest

/-- The flags, the score and the reveals of an interaction; gives the messages of
new trophies. -/
def applyMarks (a : Action) (w : World) (s : GameState) (i : Interaction) :
    Except WorldError (GameState × List String) := do
  let flags := i.removes.foldl .erase (i.grants.foldl .insert s.flags)
  let s := { s with flags }
  let (s, messages) :=
    if i.score = 0 then (s, [])
    else (s.awardOnce w (a.verb.scoreGuard a.object.id) i.score).getD (s, [])
  return (← reveal w s i.reveals, messages)

/-- The moves of an interaction. An object that is already where it should be is
left there. -/
def applyTransfers (w : World) (s : GameState) :
    List Authored.Transfer → Except ContainerError GameState
  | [] => return s
  | t :: rest =>
    match s.transfer w t.object t.destination with
    | .ok s => applyTransfers w s rest
    | .error (.alreadyThere _) => applyTransfers w s rest
    | .error e => .error e

/-- The first stage: the built-in change of state. -/
def changeState (a : Action) (w : World) (s : GameState) : Except Refusal GameState :=
  if a.builtin then a.builtinState w s else .ok s

/-- The second stage: the marks of the interaction. -/
def leaveMarks (a : Action) (w : World) (s : GameState) :
    Except Refusal (GameState × List String) :=
  match a.entry with
  | some i => liftM (a.applyMarks w s i)
  | none => .ok (s, [])

/-- The move that the verb brings about. -/
def moveByHand (a : Action) (w : World) (s : GameState) : Except Refusal GameState :=
  if a.builtin then a.builtinMove w s else .ok s

/-- The moves that the interaction brings about. -/
def moveAsWritten (a : Action) (w : World) (s : GameState) : Except Refusal GameState :=
  match a.entry with
  | some i => liftM (applyTransfers w s i.transfers)
  | none => .ok s

/-- The third stage: the moves, first the built-in one. -/
def moveObjects (a : Action) (w : World) (s : GameState) : Except Refusal GameState := do
  a.moveAsWritten w (← a.moveByHand w s)

/-- The last stage: the change of scene; gives the new scene in words. -/
def changeScene (a : Action) (w : World) (s : GameState) :
    Except Refusal (GameState × List String) :=
  match a.entry.bind (·.targetScene) with
  | some scene =>
    match s.enterScene w scene with
    | (.ok text, s) => .ok (s, [text])
    | (.error cause, _) => .error (.world cause)
  | none => .ok (s, [])

/-- Brings about every effect of the action; gives the lines to be added to the
message: the new scene, and the messages of new trophies. -/
def apply (a : Action) (w : World) (s : GameState) :
    Except Refusal (GameState × List String) := do
  let s ← a.changeState w s
  let (s, trophies) ← a.leaveMarks w s
  let s ← a.moveObjects w s
  let s ← s.relit w
  let (s, arrival) ← a.changeScene w s
  return (s, arrival ++ trophies)

/-- What is said when the action is done and nothing is written for it. -/
def plainMessage (a : Action) (w : World) (messages : Messages) (s : GameState) :
    Except WorldError String := do
  let name := a.object.name
  match a.verb, a.builtin with
  | .take, true => return "Taken."
  | .drop, _ => return "Dropped."
  | .put, _ =>
    match a.target with
    | some target => return "You put the " ++ name ++ " in the " ++ target.name ++ "."
    | none => return "Done."
  | .open, true =>
    let contents ← s.visibleContents w a.object.id
    if contents.isEmpty then return "Opened."
    else return "Opening the " ++ name ++ " reveals " ++ ", ".intercalate contents ++ "."
  | .close, true => return "Closed."
  | .lock, true => return "Locked."
  | .unlock, true => return "Unlocked."
  | .turnOn, true => return "The " ++ name ++ " is now on."
  | .turnOff, true => return "The " ++ name ++ " is now off."
  | .examine, _ => s.examineText w a.object
  | _, _ => return messages.nothingHappens

/-- What is said when the action is done. -/
def message (a : Action) (w : World) (messages : Messages) (s : GameState) :
    Except WorldError String := do
  match a.entry.bind (·.message) with
  | some d => return d.select s.flags (← s.hasLight w) false
  | none => a.plainMessage w messages s

end Action

/-! ## Planning -/

/-- What a command about an object comes to before anything is changed. -/
inductive Plan where
  | refused (message : String)
  | act (action : Action)

/-- What is said when an interaction needs a tool that is not carried. -/
def toolRefusal (w : World) (s : GameState) (i : Interaction) :
    List Id → Except WorldError (Option String)
  | [] => return none
  | tool :: rest => do
    if s.carries tool then toolRefusal w s i rest
    else
      let name ← w.nameOf tool
      return some (i.failureMessage.getD ("You need the " ++ name ++ " to do that."))

/-- What is said when an interaction's needs are not met. -/
def Action.entryRefusal (a : Action) (w : World) (messages : Messages) (s : GameState) :
    Except WorldError (Option String) := do
  match a.entry with
  | none => return none
  | some i =>
    match ← toolRefusal w s i i.requiresHeld with
    | some message => return some message
    | none =>
      if i.precondition.holds s.flags then return none
      else
        return some (i.failureMessage.getD (fill messages.cantDo a.verb.text a.object.name))

/-- What is said when the built-in part would not go through. -/
def Action.builtinRefusal (a : Action) (w : World) (s : GameState) :
    Except WorldError (Option String) :=
  if a.builtin then
    match a.builtinPart w s with
    | .ok _ => .ok none
    | .error (.player message) => .ok (some message)
    | .error (.world cause) => .error cause
  else .ok none

/-- Decides what a verb with its objects comes to. -/
def Action.check (a : Action) (w : World) (messages : Messages) (s : GameState) :
    Except WorldError Plan := do
  if !a.builtin && a.entry.isNone then
    return .refused (a.verb.unsupported messages a.object)
  if a.verb = .put ∧ a.builtin ∧ a.target.isNone then
    return .refused ("What do you want to put the " ++ a.object.name ++ " in?")
  match ← a.entryRefusal w messages s with
  | some message => return .refused message
  | none =>
    match ← a.builtinRefusal w s with
    | some message => return .refused message
    | none => return .act a

def Action.on (verb : Verb) (o : Object) (target : Option Object) : Action where
  verb
  object := o
  target
  entry := o.interactions[verb]?
  builtin := verb.appliesTo o

/-- Decides what a command about an object comes to. -/
def GameState.plan (s : GameState) (w : World) (messages : Messages) (command : Command) :
    Except WorldError Plan := do
  let verb := Verb.ofText command.verb
  match Command.noun? command.object with
  | none => return .refused (fill messages.what verb.text "")
  | some noun =>
    match ← s.locate w messages noun with
    | .refused message => return .refused message
    | .object o =>
      let target ← (Command.noun? command.target).mapM (s.locate w messages)
      match target with
      | some (.refused message) => return .refused message
      | some (.object t) => (Action.on verb o (some t)).check w messages s
      | none => (Action.on verb o none).check w messages s

/-- Carries out a command about an object. -/
def GameState.act (s : GameState) (w : World) (messages : Messages) (command : Command) :
    Except WorldError Response × GameState :=
  match s.plan w messages command with
  | .error cause => (.error cause, s)
  | .ok (.refused message) => (.ok (.refused message), s)
  | .ok (.act a) =>
    match a.apply w s with
    | .error (.world cause) => (.error cause, s)
    | .error (.player message) => (.ok (.refused message), s)
    | .ok (after, lines) =>
      match a.message w messages after with
      | .error cause => (.error cause, after)
      | .ok message => (.ok (.done ("\n".intercalate (message :: lines))), after)

end TextAdventure
