import TextAdventure.Condition

/-!
# Errors of a world

What can be wrong with a world that is played, or with a snapshot of a game in
it. None of these is the player's mistake: a refusal to the player is a
response, not an error.
-/

namespace TextAdventure

/-- Why a snapshot does not fit a world. -/
inductive SnapshotError where
  | otherWorld (theirs ours : String)
  | unknownObject (context : String) (id : Id)
  | unknownScene (context : String) (id : Id)
  | holderNotContainer (id : Id)
  | heldTwice (object : Id)
  | insideItself (container : Id)
  | usageOfNoLightSource (id : Id)
deriving DecidableEq, Repr

/-- An object with two holders, in words. -/
def heldTwiceMessage (object : Id) : String :=
  "object '" ++ object ++ "' is held by more than one holder"

/-- The reason in words. -/
def SnapshotError.message : SnapshotError → String
  | .otherWorld theirs ours => "snapshot is for world '" ++ theirs ++ "', not '" ++ ours ++ "'"
  | .unknownObject context id => context ++ " names unknown object '" ++ id ++ "'"
  | .unknownScene context id => context ++ " names unknown scene '" ++ id ++ "'"
  | .holderNotContainer id => "'" ++ id ++ "' holds items but is not a container"
  | .heldTwice object => heldTwiceMessage object
  | .insideItself container => "container '" ++ container ++ "' ends up inside itself"
  | .usageOfNoLightSource id => "'" ++ id ++ "' has light usage but is not a light source"

/-- Something that is not as a played world must be. -/
inductive WorldError where
  | unknownScene (id : Id)
  | unknownObject (id : Id)
  | notAContainer (id : Id)
  | multiplePlacement (object : Id)
  | condition (context : String) (cause : ConditionError)
  | snapshot (cause : SnapshotError)
  /-- An object has two interactions for one verb. -/
  | repeatedVerb (object : Id) (verb : String)
  /-- The contents of an object contain it, so that they have no weight. -/
  | endlessNesting (object : Id)
deriving DecidableEq, Repr

def WorldError.message : WorldError → String
  | .unknownScene id => "unknown scene '" ++ id ++ "'"
  | .unknownObject id => "unknown object '" ++ id ++ "'"
  | .notAContainer id => "object '" ++ id ++ "' is not a container"
  | .multiplePlacement object => heldTwiceMessage object
  | .condition context cause => "condition in " ++ context ++ ": " ++ cause.message
  | .snapshot cause => "snapshot rejected: " ++ cause.message
  | .repeatedVerb object verb =>
    "content error: object '" ++ object ++ "' has more than one '" ++ verb ++ "' interaction"
  | .endlessNesting object => "object '" ++ object ++ "' is nested without end"

end TextAdventure
