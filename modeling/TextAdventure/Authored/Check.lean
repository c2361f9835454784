import Std.Data.ExtTreeMap
import TextAdventure.Authored.Fault
import TextAdventure.Repetition
import TextAdventure.Text.Case
import TextAdventure.Text.Split

/-!
# Checking an authored world

`World.faults` lists everything wrong with a world: ids used twice, references
to nothing, values that make no sense, malformed conditions, and containers that
start inside themselves. A world without faults refers only to what exists.

The order is that of the world: the ids first, then the game, the scenes and the
objects as written, and last the cycles of containment in the order of their
texts.
-/

namespace TextAdventure.Authored

/-- The ids that exist. -/
structure Known where
  scenes : List Id
  objects : List Id
  containers : List Id

def Known.ofWorld (w : World) : Known where
  scenes := w.scenes.map (·.id)
  objects := w.objects.map (·.id)
  containers := (w.objects.filter (·.container.isSome)).map (·.id)

/-- A reference to an id that is not among those given. -/
def missing (kind : String) (id : Id) (known : List Id) (context : String) : List Fault :=
  if id ∈ known then [] else [.missingReference kind id context]

/-! ## Flags and conditions -/

/-- The beginnings of flag names that refer to an object. -/
def objectFlagHeads : List String := ["open:", "locked:", "revealed:", "on:", "dead:"]

/-- The beginnings of flag names that refer to a scene. -/
def sceneFlagHeads : List String := ["visited:", "exit-scored:"]

/-- The kind and the id that a flag name written `kind:id` refers to. -/
def flagReference? (name : String) : Option (Bool × Id) :=
  match objectFlagHeads.findSome? (Text.after? · name) with
  | some id => some (true, id)
  | none =>
    match sceneFlagHeads.findSome? (Text.after? · name) with
    | some id => some (false, id)
    | none =>
      (Text.after? "scored:" name).map fun rest =>
        (true, ((Text.cut? '/' rest).map (·.1)).getD rest)

/-- A flag name must not be empty, and one written `kind:id` must refer to
something that exists. -/
def flagFaults (known : Known) (context name : String) : List Fault :=
  let name := Text.trim name
  if name.isEmpty then [.invalidValue (.emptyFlagName context)]
  else
    let context := context ++ " flag '" ++ name ++ "'"
    match flagReference? name with
    | some (true, id) => missing "object" id known.objects context
    | some (false, id) => missing "scene" id known.scenes context
    | none => []

/-- The flag name of a term, which may be negated. -/
def termName (term : String) : String :=
  let name := Text.trim term
  ((Text.after? "!" name).map Text.trim).getD name

/-- The faults of the terms of a clause, up to the first term that names no
flag. -/
def termFaults (known : Known) (context clause : String) : List String → List Fault
  | [] => []
  | term :: rest =>
    if (termName term).isEmpty then [.malformedCondition clause context]
    else flagFaults known context (termName term) ++ termFaults known context clause rest

def clauseFaults (known : Known) (context clause : String) : List Fault :=
  if (Text.trim clause).isEmpty then [.malformedCondition clause context]
  else termFaults known context clause (Text.splitAt '|' clause)

def conditionFaults (known : Known) (context : String) (clauses : Clauses) : List Fault :=
  clauses.flatMap (clauseFaults known context)

def descriptionFaults (known : Known) (context : String) (d : Description) : List Fault :=
  d.overrides.flatMap fun o =>
    conditionFaults known (context ++ " description override") o.when

/-! ## Places -/

/-- A scene or a holder that is named must exist, and a holder must be a
container. -/
def placeFaults (known : Known) (context : String) : Place → List Fault
  | .inventory | .nowhere => []
  | .scene id => missing "scene" id known.scenes context
  | .container holder =>
    if holder ∉ known.objects then [.missingReference "object" holder context]
    else if holder ∉ known.containers then [.invalidValue (.heldByNoContainer context holder)]
    else []

/-! ## The game -/

def scoringFaults (s : Scoring) : List Fault :=
  (if s.ranks.isEmpty then [.invalidValue .noRanks] else [])
    ++ s.ranks.flatMap (fun r =>
      if (Single.ofNat 0).le r.threshold && r.threshold.le (.ofNat 100) then []
      else [.invalidValue (.thresholdOutOfRange r.name r.threshold)])
    ++ (repeated (s.achievements.map (·.id))).map (.duplicateId "achievement")
    ++ s.achievements.flatMap fun a =>
      if a.threshold = 0 then [.invalidValue (.achievementAtZero a.id)] else []

/-- The faults of what concerns the game as a whole. -/
def gameFaults (known : Known) (g : Game) : List Fault :=
  (if (Text.trim g.startScene).isEmpty then [.invalidValue .noStartScene]
    else missing "scene" g.startScene known.scenes "game start scene")
    ++ g.initialFlags.flatMap (flagFaults known "game initial flags")
    ++ scoringFaults g.scoring

/-! ## Scenes -/

/-- The faults of the exits of a scene. `taken` are the directions, in small
letters, of the exits before them: no two exits may share one. -/
def exitFaults (known : Known) (scene : Id) (taken : List String) : List Exit → List Fault
  | [] => []
  | e :: rest =>
    let context := sceneContext scene ++ " exit '" ++ e.direction ++ "'"
    let own := missing "scene" e.destination known.scenes context
      ++ conditionFaults known context e.requires
    let direction := Text.lower e.direction
    if (Text.trim e.direction).isEmpty then
      .invalidValue (.exitWithoutDirection scene) :: own ++ exitFaults known scene taken rest
    else if direction ∈ taken then
      .duplicateId "exit" (scene ++ ":" ++ e.direction) :: own
        ++ exitFaults known scene taken rest
    else own ++ exitFaults known scene (direction :: taken) rest

def sceneFaults (known : Known) (s : Scene) : List Fault :=
  descriptionFaults known (sceneContext s.id) s.desc ++ exitFaults known s.id [] s.exits

/-! ## Objects -/

def effectFaults (known : Known) (context : String) (i : Interaction) : List Fault :=
  conditionFaults known context i.requires
    ++ (i.message.map (descriptionFaults known context)).getD []
    ++ (i.grants ++ i.removes).flatMap (flagFaults known context)
    ++ i.requiresHeld.flatMap (missing "object" · known.objects (context ++ " tool"))
    ++ i.reveals.flatMap (missing "object" · known.objects (context ++ " reveals"))
    ++ i.transfers.flatMap (fun t =>
      missing "object" t.object known.objects (context ++ " transfer")
        ++ placeFaults known (context ++ " transfer destination") t.destination)
    ++ (i.targetScene.map (missing "scene" · known.scenes (context ++ " target scene"))).getD []

/-- The faults of the interactions of an object. `taken` are the verbs, in small
letters, of the interactions before them. An interaction without a verb is not
looked at further. -/
def interactionFaults (known : Known) (object : Id) (taken : List String) :
    List Interaction → List Fault
  | [] => []
  | i :: rest =>
    let verb := Text.lower (Text.trim i.verb)
    if verb.isEmpty then
      .invalidValue (.interactionWithoutVerb object)
        :: interactionFaults known object taken rest
    else
      let own := effectFaults known
        (objectContext object ++ " interaction '" ++ i.verb ++ "'") i
      if verb ∈ taken then
        .duplicateId "interaction" (object ++ ":" ++ verb) :: own
          ++ interactionFaults known object taken rest
      else own ++ interactionFaults known object (verb :: taken) rest

def objectFaults (known : Known) (o : Object) : List Fault :=
  placeFaults known (objectContext o.id) o.location
    ++ (if o.location = .container o.id then [.invalidValue (.insideItself o.id)] else [])
    ++ descriptionFaults known (objectContext o.id) o.desc
    ++ (match o.container with
      | some c =>
        if c.isOpen && c.isLocked then [.invalidValue (.openAndLocked o.id)] else []
      | none => [])
    ++ (match o.lightSource with
      | some l =>
        if l.batteryLife = some 0 then [.invalidValue (.noBatteryLife o.id)] else []
      | none => [])
    ++ interactionFaults known o.id [] o.interactions

/-! ## Containment -/

/-- Adds the holder of an object that starts inside a container. -/
def addHolder (holders : Std.ExtTreeMap Id Id) (o : Object) : Std.ExtTreeMap Id Id :=
  match o.location with
  | .container holder => holders.insert o.id holder
  | _ => holders

/-- The holders of the objects that start inside a container. -/
def startHolders (objects : List Object) : Std.ExtTreeMap Id Id := objects.foldl addHolder ∅

/-- The held objects that are not among those seen. -/
def unseen (holders : Std.ExtTreeMap Id Id) (seen : List Id) : List Id :=
  holders.keys.filter (· ∉ seen)

/-- There are fewer of them once another held object is seen. -/
theorem length_unseen_lt {holders : Std.ExtTreeMap Id Id} {seen : List Id} {id holder : Id}
    (hheld : holders[id]? = some holder) (hnew : id ∉ seen) :
    (unseen holders (id :: seen)).length < (unseen holders seen).length := by
  have hkey : id ∈ holders.keys :=
    Std.ExtTreeMap.mem_keys.mpr (Std.ExtTreeMap.mem_iff_isSome_getElem?.mpr (by rw [hheld]; rfl))
  have hsplit : unseen holders (id :: seen) = (unseen holders seen).filter (· ≠ id) := by
    simp [unseen, List.filter_filter]
  rw [hsplit, List.length_filter_lt_length_iff_exists]
  exact ⟨id, List.mem_filter.mpr ⟨hkey, decide_eq_true hnew⟩, by simp⟩

/-- Going from holder to holder comes back to an object that has been seen. It
ends at what has no holder otherwise, since every step sees a held object that
was not seen before. -/
def comesBack (holders : Std.ExtTreeMap Id Id) (seen : List Id) (id : Id) : Bool :=
  match _hheld : holders[id]? with
  | none => false
  | some holder => if id ∈ seen then true else comesBack holders (id :: seen) holder
termination_by (unseen holders seen).length
decreasing_by exact length_unseen_lt ‹_› ‹_›

/-- The objects from which going from holder to holder never comes to an end. -/
def cyclicObjects (objects : List Object) : List Id :=
  let holders := startHolders objects
  holders.keys.filter (comesBack holders [])

/-- The cycles of containment. -/
def cycleFaults (objects : List Object) : List Fault :=
  ((cyclicObjects objects).map fun id => Fault.invalidValue (.containmentCycle id)).mergeSort
    fun a b => a.message ≤ b.message

/-! ## The world -/

/-- Everything wrong with a world. -/
def World.faults (w : World) : List Fault :=
  let known := Known.ofWorld w
  (repeated known.scenes).map (.duplicateId "scene")
    ++ (repeated known.objects).map (.duplicateId "object")
    ++ gameFaults known w.game
    ++ w.scenes.flatMap (sceneFaults known)
    ++ w.objects.flatMap (objectFaults known)
    ++ cycleFaults w.objects

end TextAdventure.Authored
