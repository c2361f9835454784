import Std.Data.ExtTreeMap
import TextAdventure.Description
import TextAdventure.Verb
import TextAdventure.World.Error
import TextAdventure.World.Rank

/-!
# The world that is played

Everything that does not change during a game: the scenes with their exits, the
objects with their interactions, and the rules for scoring. Conditions and flags
are resolved; scenes and objects are found by id.
-/

namespace TextAdventure

/-- The largest number a counter of the game can hold. -/
def counterLimit : Nat := 4294967295

/-- A sum that stays at the largest number once it is reached. -/
def addCapped (a b : Nat) : Nat := min counterLimit (a + b)

/-- A way out of a scene. Hidden exits are not listed but can be taken. -/
structure Exit where
  direction : String
  destination : Id
  description : String := ""
  precondition : Condition := .always
  barredMessage : Option String := none
  score : Nat := 0
  hidden : Bool := false
deriving Repr, Inhabited

/-- A scene. `objects` are those that start in it. -/
structure Scene where
  id : Id
  name : String
  region : String
  naturalLight : Bool
  description : Description
  objects : List Id
  exits : List Exit
deriving Repr, Inhabited

/-- What a verb does to an object, and what it needs. -/
structure Interaction where
  message : Option Description := none
  failureMessage : Option String := none
  precondition : Condition := .always
  requiresHeld : List Id := []
  grants : List Flag := []
  removes : List Flag := []
  score : Int := 0
  reveals : List Id := []
  transfers : List Authored.Transfer := []
  targetScene : Option Id := none
deriving Repr, Inhabited

/-- An object. -/
structure Object where
  id : Id
  name : String
  aliases : List String := []
  description : Description
  start : Place
  visibleOnEntry : Bool := true
  requiresLight : Bool := true
  takeable : Bool := false
  weight : Nat := 1
  container : Option Authored.Container := none
  lightSource : Option Authored.LightSource := none
  interactions : Std.ExtTreeMap Verb Interaction := ∅

namespace Object

def plain (id : Id) (name : String) (start : Place) : Object where
  id
  name
  description := { text := "It's a " ++ name ++ "." }
  start

/-- The text names the object: by its id, its name, the last word of its name or
one of its aliases, whatever the case of the letters. -/
def isNamed (o : Object) (query : String) : Bool :=
  let query := Text.lower (Text.trim query)
  let name := Text.lower o.name
  !query.isEmpty
    && (Text.lower o.id == query || name == query || (Text.words name).getLast? == some query
      || o.aliases.any (Text.lower · == query))

/-- The object can hold other objects. -/
def isContainer (o : Object) : Bool := o.container.isSome

/-- The object can give light. -/
def isLightSource (o : Object) : Bool := o.lightSource.isSome

end Object

/-- The rules for scoring; the ranks have the highest threshold first. -/
structure Scoring where
  reportTitle : String
  ranks : List Authored.Rank
  achievements : List Authored.Achievement
deriving Repr, Inhabited

/-- A world that is played. -/
structure World where
  title : String
  slug : String
  author : String
  version : String
  intro : String
  startScene : Id
  carryLimit : Option Nat
  initialFlags : List Flag
  scenes : Std.ExtTreeMap Id Scene
  objects : Std.ExtTreeMap Id Object
  scoring : Scoring
  maxScore : Nat

namespace World

def scene (w : World) (id : Id) : Except WorldError Scene :=
  match w.scenes[id]? with
  | some scene => .ok scene
  | none => .error (.unknownScene id)

def object (w : World) (id : Id) : Except WorldError Object :=
  match w.objects[id]? with
  | some object => .ok object
  | none => .error (.unknownObject id)

def hasScene (w : World) (id : Id) : Bool := w.scenes.contains id

/-- There is an object with this id. -/
def hasObject (w : World) (id : Id) : Bool := w.objects.contains id

/-- What the verb does to the object, if it is written down. -/
def interaction? (w : World) (object : Id) (verb : Verb) : Option Interaction :=
  (w.objects[object]?).bind fun o => o.interactions[verb]?

end World

end TextAdventure
