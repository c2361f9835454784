import TextAdventure.Place

/-!
# Times of saved games

Moments are counted in nanoseconds. The player reads how long ago a game was
saved in the largest unit that is full.
-/

namespace TextAdventure.Saves

/-- A point in time, in nanoseconds from a fixed one. -/
abbrev Moment := Int

/-- The first time is not after the second. A time that cannot be told counts as
earlier than all others. -/
def noLater : Option Moment → Option Moment → Bool
  | none, _ => true
  | some _, none => false
  | some a, some b => a ≤ b

/-- So many seconds ago, in words. -/
def secondsText (seconds : Nat) : String :=
  if seconds < 30 then "just now"
  else if seconds < 3600 then toString (max 1 (seconds / 60)) ++ "m ago"
  else if seconds < 86400 then toString (seconds / 3600) ++ "h ago"
  else toString (seconds / 86400) ++ "d ago"

/-- How long before `now` the moment `written` was, in words. -/
def ageText (now written : Moment) : String :=
  if now < written then "in the future"
  else secondsText ((now - written).toNat / 1000000000)

end TextAdventure.Saves
