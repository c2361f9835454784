import TextAdventure.State.Basic
import TextAdventure.World.Basic

/-!
# The score

Points are added or taken away, between zero and the largest number. A trophy is
announced when the score reaches its threshold for the first time, and an award
with a guard is given only once.
-/

namespace TextAdventure

/-- A score after points are added or taken away. -/
def adjust (score : Nat) (points : Int) : Nat := min counterLimit (score + points).toNat

namespace GameState

/-- Grants the trophies whose threshold is reached and that are not granted yet;
gives their messages. -/
def grantAchievements (s : GameState) :
    List Authored.Achievement → GameState × List String
  | [] => (s, [])
  | a :: rest =>
    if a.threshold ≤ s.score && !s.flags.has (.achievement a.id) then
      let (s, messages) :=
        grantAchievements { s with flags := s.flags.insert (.achievement a.id) } rest
      (s, a.message :: messages)
    else grantAchievements s rest

/-- Adds points, or takes them away; gives the messages of new trophies. -/
def addScore (s : GameState) (w : World) (points : Int) : GameState × List String :=
  { s with score := adjust s.score points }.grantAchievements w.scoring.achievements

/-- Adds points unless the guard is set, and sets it. -/
def awardOnce (s : GameState) (w : World) (guardFlag : Flag) (points : Int) :
    Option (GameState × List String) :=
  if s.flags.has guardFlag then none
  else some ({ s with flags := s.flags.insert guardFlag }.addScore w points)

/-- What the player has reached of the highest score, in percent. -/
def percent (s : GameState) (w : World) : Single := percentOf s.score w.maxScore

/-- The rank that the player has earned. -/
def rank (s : GameState) (w : World) : Option Authored.Rank :=
  rankFor w.scoring.ranks (s.percent w)

/-- The score in words, with the rank. -/
def scoreReport (s : GameState) (w : World) : String :=
  "Your score is " ++ toString s.score ++ " (out of " ++ toString w.maxScore ++ "), in "
    ++ toString s.turns ++ " turns."
    ++ match s.rank w with
      | some rank => " This gives you the rank of " ++ rank.name ++ "."
      | none => ""

end GameState

end TextAdventure
