import TextAdventure.Place
import TextAdventure.Number.Single

/-!
# The world as it is written

What an author writes down: scenes with their exits, objects with their
interactions, and the rules for scoring. Ids refer to each other freely here and
conditions are still text; `Authored.World.faults` lists what is wrong with a
world, and compiling turns it into the form that is played.
-/

namespace TextAdventure.Authored

/-- A condition: clauses that must all hold. A clause is a flag name, a negated
flag name `!name`, or several of either separated by `|`. -/
abbrev Clauses := List String

/-- A text that replaces another while its condition holds. -/
structure Override where
  when : Clauses
  text : String
deriving DecidableEq, Repr, Inhabited

/-- A description with the texts that replace it, first match first. `dark` is
used instead of everything else without light, `visited` on return visits when
no override applies. -/
structure Description where
  text : String
  overrides : List Override := []
  dark : Option String := none
  visited : Option String := none
deriving DecidableEq, Repr, Inhabited

/-- A way out of a scene. `score` is earned on the first arrival through any
exit into the scene `destination`. -/
structure Exit where
  direction : String
  destination : Id
  desc : String := ""
  requires : Clauses := []
  barredMessage : Option String := none
  score : Nat := 0
  hidden : Bool := false
deriving DecidableEq, Repr, Inhabited

/-- A scene. `lit` scenes need no light source. -/
structure Scene where
  id : Id
  name : String
  region : String := ""
  lit : Bool := false
  desc : Description
  exits : List Exit := []
deriving DecidableEq, Repr, Inhabited

/-- What makes an object a container. -/
structure Container where
  capacity : Nat
  isOpen : Bool := false
  isLocked : Bool := false
deriving DecidableEq, Repr, Inhabited

/-- What makes an object a light source. Without a battery life of its own it
lasts as long as the settings say. -/
structure LightSource where
  batteryLife : Option Nat := none
  on : Bool := false
deriving DecidableEq, Repr, Inhabited

/-- A move of an object that an interaction brings about. -/
structure Transfer where
  object : Id
  destination : Place
deriving DecidableEq, Repr, Inhabited

/-- What a verb does to an object, and what it needs. -/
structure Interaction where
  verb : String
  message : Option Description := none
  failureMessage : Option String := none
  requires : Clauses := []
  requiresHeld : List Id := []
  grants : List String := []
  removes : List String := []
  score : Int := 0
  reveals : List Id := []
  transfers : List Transfer := []
  targetScene : Option Id := none
deriving DecidableEq, Repr, Inhabited

/-- An object. -/
structure Object where
  id : Id
  name : String
  aliases : List String := []
  desc : Description
  location : Place
  visibleOnEntry : Bool := true
  requiresLight : Bool := true
  takeable : Bool := false
  weight : Nat := 1
  container : Option Container := none
  lightSource : Option LightSource := none
  interactions : List Interaction := []
deriving DecidableEq, Repr, Inhabited

/-- A title for reaching a percentage of the highest score. -/
structure Rank where
  threshold : Single
  name : String
  description : String
deriving DecidableEq, Repr, Inhabited

/-- A trophy for the first time that the score reaches `threshold`. -/
structure Achievement where
  id : Id
  threshold : Nat
  message : String
deriving DecidableEq, Repr, Inhabited

/-- The ranks of a world that brings none of its own. -/
def standardRanks : List Rank := [
  { threshold := .ofNat 100, name := "Master Adventurer",
    description := "Every treasure found, every door opened. The house holds no more secrets." },
  { threshold := .ofNat 75, name := "Adventurer",
    description := "A thorough expedition with only a few corners left unlit." },
  { threshold := .ofNat 50, name := "Junior Adventurer",
    description := "You found the cellar and lived to tell about it." },
  { threshold := .ofNat 25, name := "Novice Adventurer",
    description := "You read the leaflet. That is more than most people do." },
  { threshold := .ofNat 0, name := "Beginner",
    description := "You stood near a white house and wondered." }]

/-- The rules for scoring. -/
structure Scoring where
  reportTitle : String := "Scorecard"
  ranks : List Rank := standardRanks
  achievements : List Achievement := []
deriving DecidableEq, Repr, Inhabited

/-- What concerns the game as a whole. -/
structure Game where
  title : String
  slug : String := ""
  author : String := ""
  version : String := ""
  intro : String := ""
  startScene : Id
  carryLimit : Option Nat := none
  initialFlags : List String := []
  scoring : Scoring := {}
deriving DecidableEq, Repr, Inhabited

/-- A whole world. -/
structure World where
  game : Game
  scenes : List Scene := []
  objects : List Object := []
deriving DecidableEq, Repr, Inhabited

end TextAdventure.Authored
