import TextAdventure.Authored.World
import TextAdventure.Text.Split

/-!
# Settings

What a game takes from its settings and not from the world: how long batteries
last, what overrides the world's own rules, and the texts that are the same in
every world. Texts may hold the marks `\x7bverb\x7d` and `\x7bobject\x7d`.
-/

namespace TextAdventure

/-- The texts that are the same in every world. -/
structure Messages where
  cantGo : String := "You can't go that way."
  tooDarkToMove : String := "It is too dark to find your way."
  tooDarkToSee : String := "It's too dark to see."
  notHere : String := "You don't see any \x7bobject\x7d here."
  cantDo : String := "You can't \x7bverb\x7d the \x7bobject\x7d."
  what : String := "What do you want to \x7bverb\x7d?"
  nothingHappens : String := "Nothing happens."
  emptyHanded : String := "You are empty-handed."
  wait : String := "Time passes."
  lightDepleted : String := "The \x7bobject\x7d has run out of power."
  lightLow : String := "The \x7bobject\x7d is getting dim."
deriving DecidableEq, Repr, Inhabited

/-- How long batteries last, and how many turns before the end to warn. -/
structure BatteryPolicy where
  defaultLife : Nat := 100
  lowWarning : Option Nat := none
deriving DecidableEq, Repr, Inhabited

/-- The settings of a game. A carry limit and a table of ranks replace those of
the world. -/
structure Settings where
  batteryLife : Nat := 100
  lowBatteryWarning : Option Nat := none
  carryLimit : Option Nat := none
  ranks : List Authored.Rank := []
  messages : Messages := {}
deriving DecidableEq, Repr, Inhabited

/-- The part of the settings that concerns batteries. -/
def Settings.batteryPolicy (settings : Settings) : BatteryPolicy where
  defaultLife := settings.batteryLife
  lowWarning := settings.lowBatteryWarning

/-- Fills in the verb and then the object. A mark for the object that comes with
the verb is filled in as well. -/
def fill (template verb object : String) : String :=
  Text.replace "\x7bobject\x7d" object (Text.replace "\x7bverb\x7d" verb template)

end TextAdventure
