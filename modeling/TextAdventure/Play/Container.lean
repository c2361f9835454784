import TextAdventure.State.Placement
import TextAdventure.State.Weight

/-!
# Containers and carrying

Opening and locking containers, and moving objects between holders. Every move
takes the object out of its holder, asks whether the destination takes it, and
puts it there; when it is refused, the object is put back where it was. So a
move is an `Attempt`, which leaves a state behind even when it fails.

Moves by hand respect lids: they reach neither out of a closed container nor
into one. Moves that an author brings about only respect room and containment.
-/

namespace TextAdventure

/-- Why something cannot be done with a container or an object. Objects are
given by their names. -/
inductive ContainerError where
  | notAContainer (name : String)
  | locked (name : String)
  | closed (name : String)
  | alreadyOpen (name : String)
  | alreadyClosed (name : String)
  | alreadyLocked (name : String)
  | alreadyUnlocked (name : String)
  | mustCloseFirst (name : String)
  | overCapacity (item container : String)
  | inventoryFull (name : String)
  | notPresent (item container : String)
  | intoItself (name : String)
  | notTakeable (name : String)
  | alreadyCarried (name : String)
  | notCarried (name : String)
  | alreadyThere (name : String)
  | world (cause : WorldError)
deriving DecidableEq, Repr

/-- The reason as the player reads it. -/
def ContainerError.message : ContainerError → String
  | .notAContainer name => "The " ++ name ++ " isn't a container."
  | .locked name => "The " ++ name ++ " is locked."
  | .closed name => "The " ++ name ++ " is closed."
  | .alreadyOpen name => "The " ++ name ++ " is already open."
  | .alreadyClosed name => "The " ++ name ++ " is already closed."
  | .alreadyLocked name => "The " ++ name ++ " is already locked."
  | .alreadyUnlocked name => "The " ++ name ++ " isn't locked."
  | .mustCloseFirst name => "You'll have to close the " ++ name ++ " first."
  | .overCapacity item container => "The " ++ item ++ " won't fit in the " ++ container ++ "."
  | .inventoryFull name => "You're carrying too much to take the " ++ name ++ "."
  | .notPresent item container => "The " ++ item ++ " isn't in the " ++ container ++ "."
  | .intoItself name => "You can't put the " ++ name ++ " inside itself."
  | .notTakeable name => "You can't take the " ++ name ++ "."
  | .alreadyCarried name => "You already have the " ++ name ++ "."
  | .notCarried name => "You aren't carrying the " ++ name ++ "."
  | .alreadyThere name => "The " ++ name ++ " is already there."
  | .world cause => cause.message

instance : MonadLift (Except WorldError) (Except ContainerError) := ⟨(·.mapError .world)⟩

namespace World

def nameOf (w : World) (id : Id) : Except WorldError String := return (← w.object id).name

/-- What makes an object a container, if it is one. -/
def containerSpec (w : World) (id : Id) : Except ContainerError Authored.Container := do
  let o ← w.object id
  match o.container with
  | some spec => return spec
  | none => throw (.notAContainer o.name)

end World

namespace GameState

/-- Why one cannot reach into a container, if there is a reason. -/
def lidError (s : GameState) (w : World) (container : Id) :
    Except WorldError (Option ContainerError) := do
  if s.isOpen container then return none
  let name ← w.nameOf container
  return some (if s.isLocked container then .locked name else .closed name)

/-! ## Lids and locks -/

/-- Gives a container other flags, unless there is a reason not to; the reason is
given its name. -/
def changeLid (s : GameState) (w : World) (container : Id)
    (reason : String → Option ContainerError) (flags : FlagSet) :
    Except ContainerError GameState := do
  discard (w.containerSpec container)
  let name ← w.nameOf container
  match reason name with
  | some e => throw e
  | none => return { s with flags }

def openContainer (s : GameState) (w : World) (container : Id) :
    Except ContainerError GameState :=
  s.changeLid w container (fun name =>
    if s.isLocked container then some (.locked name)
    else if s.isOpen container then some (.alreadyOpen name)
    else none) (s.flags.insert (.objectOpen container))

def closeContainer (s : GameState) (w : World) (container : Id) :
    Except ContainerError GameState :=
  s.changeLid w container (fun name =>
    if s.isLocked container then some (.locked name)
    else if !s.isOpen container then some (.alreadyClosed name)
    else none) (s.flags.erase (.objectOpen container))

/-- Locks a container, which must be closed. -/
def lockContainer (s : GameState) (w : World) (container : Id) :
    Except ContainerError GameState :=
  s.changeLid w container (fun name =>
    if s.isLocked container then some (.alreadyLocked name)
    else if s.isOpen container then some (.mustCloseFirst name)
    else none) (s.flags.insert (.objectLocked container))

def unlockContainer (s : GameState) (w : World) (container : Id) :
    Except ContainerError GameState :=
  s.changeLid w container (fun name =>
    if !s.isLocked container then some (.alreadyUnlocked name) else none)
    (s.flags.erase (.objectLocked container))

/-! ## Moving objects -/

/-- By hand one reaches into a container only when its lid is open. -/
def reachInto (s : GameState) (w : World) (byHand : Bool) (container : Id) :
    Except ContainerError Unit :=
  if byHand then do
    match ← s.lidError w container with
    | some reason => throw reason
    | none => return ()
  else .ok ()

/-- By hand one takes an object out of a container only when its lid is open. -/
def reachOut (s : GameState) (w : World) (byHand : Bool) : Place → Except ContainerError Unit
  | .container holder => s.reachInto w byHand holder
  | .scene _ | .inventory | .nowhere => .ok ()

/-- Asks whether a container takes an object that has no holder: it must not be
the object or inside it, must be open by hand, and must have room. -/
def askContainer (s : GameState) (w : World) (byHand : Bool) (item holder : Id) :
    Except ContainerError Unit := do
  let spec ← w.containerSpec holder
  if holder = item ∨ item ∈ s.enclosing holder then throw (.intoItself (← w.nameOf item))
  s.reachInto w byHand holder
  let load ← s.loadOf w (.container holder)
  let weight ← s.totalWeight w item
  if spec.capacity < addCapped load weight then
    throw (.overCapacity (← w.nameOf item) (← w.nameOf holder))

/-- Asks whether the player can carry an object that has no holder. -/
def askHands (s : GameState) (w : World) (item : Id) : Except ContainerError Unit :=
  match w.carryLimit with
  | some limit => do
    let load ← s.loadOf w .inventory
    let weight ← s.totalWeight w item
    if limit < addCapped load weight then throw (.inventoryFull (← w.nameOf item))
  | none => .ok ()

/-- Asks whether a place takes an object that has no holder. -/
def ask (s : GameState) (w : World) (byHand : Bool) (item : Id) :
    Place → Except ContainerError Unit
  | .container holder => s.askContainer w byHand item holder
  | .inventory => s.askHands w item
  | .scene _ | .nowhere => .ok ()

/-- Puts an object that has no holder into a place that takes it. -/
def accept (s : GameState) (w : World) (byHand : Bool) (item : Id) (destination : Place) :
    Except ContainerError GameState := do
  s.ask w byHand item destination
  s.place w item destination

/-! ## Attempts -/

/-- How an operation on a state ends: with an answer, and with the state that it
leaves behind, whatever the answer is. -/
structure Attempt where
  answer : Except ContainerError Unit
  state : GameState

/-- The state that an operation leaves if it is not refused. -/
def Attempt.result (a : Attempt) : Except ContainerError GameState :=
  match a.answer with
  | .ok () => .ok a.state
  | .error reason => .error reason

/-- Goes on when nothing is said against it; a refusal comes before any change. -/
def whenAllowed (s : GameState) (question : Except ContainerError Unit) (next : Attempt) :
    Attempt :=
  match question with
  | .ok () => next
  | .error reason => ⟨.error reason, s⟩

/-- Asks whether an object can leave its holder for another place. -/
def askSource (s : GameState) (w : World) (byHand : Bool) (item : Id) (destination : Place) :
    Except ContainerError Unit := do
  let o ← w.object item
  if s.locationOf item = destination then throw (.alreadyThere o.name)
  s.reachOut w byHand (s.locationOf item)

/-- Puts an object that was refused back into its source. If even the source is
no place, the object stays out. -/
def putBack (s : GameState) (w : World) (item : Id) (source : Place) (reason : ContainerError) :
    Attempt :=
  match s.place w item source with
  | .ok t => ⟨.error reason, t⟩
  | .error cause => ⟨.error (.world cause), s⟩

/-- Moves an object from its holder to another place, or back when it is refused
there. -/
def tryMove (s : GameState) (w : World) (byHand : Bool) (item : Id) (destination : Place) :
    Attempt :=
  s.whenAllowed (s.askSource w byHand item destination) <|
    match (s.unplace item).accept w byHand item destination with
    | .ok t => ⟨.ok (), t⟩
    | .error reason => (s.unplace item).putBack w item (s.locationOf item) reason

/-- Moves an object as an author wants it, whatever the lids. -/
def tryTransfer (s : GameState) (w : World) (item : Id) (destination : Place) : Attempt :=
  s.tryMove w false item destination

/-- Puts an object into a container by hand, wherever it is. -/
def tryAddItem (s : GameState) (w : World) (container item : Id) : Attempt :=
  s.tryMove w true item (.container container)

/-- Asks whether an object can be taken out of a container by hand. -/
def askRemoval (s : GameState) (w : World) (container item : Id) :
    Except ContainerError Unit := do
  discard (w.containerSpec container)
  if s.locationOf item ≠ .container container then
    throw (.notPresent (← w.nameOf item) (← w.nameOf container))
  if let some reason ← s.lidError w container then throw reason

/-- Takes an object out of a container by hand, leaving it nowhere. -/
def tryRemoveItem (s : GameState) (w : World) (container item : Id) : Attempt :=
  s.whenAllowed (s.askRemoval w container item) ⟨.ok (), s.unplace item⟩

/-- Asks whether an object is one to be picked up. -/
def askPickUp (s : GameState) (w : World) (item : Id) : Except ContainerError Unit := do
  let o ← w.object item
  if !o.takeable then throw (.notTakeable o.name)
  if s.carries item then throw (.alreadyCarried o.name)

/-- Takes an object into the player's hands. -/
def tryPickUp (s : GameState) (w : World) (item : Id) : Attempt :=
  s.whenAllowed (s.askPickUp w item) (s.tryMove w true item .inventory)

/-- Asks whether an object is in the player's hands. -/
def askPutDown (s : GameState) (w : World) (item : Id) : Except ContainerError Unit := do
  if !s.carries item then throw (.notCarried (← w.nameOf item))

/-- Moves an object out of the player's hands to another place. -/
def tryPutDown (s : GameState) (w : World) (item : Id) (destination : Place) : Attempt :=
  s.whenAllowed (s.askPutDown w item) (s.tryMove w true item destination)

/-! ## What attempts leave -/

def move (s : GameState) (w : World) (byHand : Bool) (item : Id) (destination : Place) :
    Except ContainerError GameState := (s.tryMove w byHand item destination).result

def transfer (s : GameState) (w : World) (item : Id) (destination : Place) :
    Except ContainerError GameState := (s.tryTransfer w item destination).result

def addItem (s : GameState) (w : World) (container item : Id) :
    Except ContainerError GameState := (s.tryAddItem w container item).result

def removeItem (s : GameState) (w : World) (container item : Id) :
    Except ContainerError GameState := (s.tryRemoveItem w container item).result

def pickUp (s : GameState) (w : World) (item : Id) : Except ContainerError GameState :=
  (s.tryPickUp w item).result

def putDown (s : GameState) (w : World) (item : Id) (destination : Place) :
    Except ContainerError GameState := (s.tryPutDown w item destination).result

end GameState

end TextAdventure
