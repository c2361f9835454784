import TextAdventure.Authored.World

/-!
# Faults of an authored world

One constructor for each thing that can be wrong, with the wording in
`Fault.message`. `context` tells where the fault was found.
-/

namespace TextAdventure.Authored

/-- A value that makes no sense. -/
inductive Flaw where
  | noStartScene
  | noRanks
  | thresholdOutOfRange (rank : String) (threshold : Single)
  | achievementAtZero (id : Id)
  | exitWithoutDirection (scene : Id)
  | insideItself (object : Id)
  | openAndLocked (object : Id)
  | noBatteryLife (object : Id)
  | interactionWithoutVerb (object : Id)
  | heldByNoContainer (context : String) (holder : Id)
  | emptyFlagName (context : String)
  | containmentCycle (object : Id)
deriving DecidableEq, Repr

/-- Something wrong with a world. -/
inductive Fault where
  | duplicateId (kind : String) (id : String)
  | missingReference (kind : String) (id : Id) (context : String)
  | invalidValue (flaw : Flaw)
  | malformedCondition (clause : String) (context : String)
deriving DecidableEq, Repr

def sceneContext (id : Id) : String := "scene '" ++ id ++ "'"

/-- Where an object is at fault. -/
def objectContext (id : Id) : String := "object '" ++ id ++ "'"

def Flaw.message : Flaw → String
  | .noStartScene => "game start scene missing"
  | .noRanks => "scoring ranks empty"
  | .thresholdOutOfRange rank threshold =>
    "scoring rank '" ++ rank ++ "' threshold out of range (" ++ threshold.toText ++ ")"
  | .achievementAtZero id => "achievement '" ++ id ++ "' threshold must be positive"
  | .exitWithoutDirection scene => sceneContext scene ++ " has an exit with no direction"
  | .insideItself object => objectContext object ++ " is placed inside itself"
  | .openAndLocked object => objectContext object ++ " cannot start both open and locked"
  | .noBatteryLife object => objectContext object ++ " light source has zero battery life"
  | .interactionWithoutVerb object =>
    objectContext object ++ " has an interaction with no verb"
  | .heldByNoContainer context holder =>
    context ++ " placed in '" ++ holder ++ "', which is not a container"
  | .emptyFlagName context => context ++ " has an empty flag name"
  | .containmentCycle object => objectContext object ++ " is part of a containment cycle"

def Fault.message : Fault → String
  | .duplicateId kind id => "duplicate " ++ kind ++ " id '" ++ id ++ "'"
  | .missingReference kind id context =>
    "missing " ++ kind ++ " '" ++ id ++ "' (" ++ context ++ ")"
  | .invalidValue flaw => "invalid value (" ++ flaw.message ++ ")"
  | .malformedCondition clause context =>
    "malformed condition clause '" ++ clause ++ "' (" ++ context ++ ")"

end TextAdventure.Authored
