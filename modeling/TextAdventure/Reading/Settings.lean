import TextAdventure.Reading.Source
import TextAdventure.Settings

/-!
# Reading settings

Every field may be missing; it then has the value that settings have by
themselves.
-/

namespace TextAdventure.Reading

variable {V : Type} [Source V]

open Source (text?)

/-- A rank that settings bring; its description may be missing. -/
def settingsRank (v : V) : Option Authored.Rank := do
  let fields ← Source.record? "RankConfig" ["threshold", "name", "description"] v
  return {
    threshold := ← required fields "threshold" Source.single?
    name := ← required fields "name" text?
    description := ← withDefault fields "description" "" text? }

/-- The texts that are the same in every world. -/
def messages (v : V) : Option Messages := do
  let fields ← Source.record? "Messages"
    ["cant_go", "too_dark_to_move", "too_dark_to_see", "not_here", "cant_do", "what",
      "nothing_happens", "empty_handed", "wait", "light_depleted", "light_low"] v
  let standard : Messages := {}
  return {
    cantGo := ← withDefault fields "cant_go" standard.cantGo text?
    tooDarkToMove := ← withDefault fields "too_dark_to_move" standard.tooDarkToMove text?
    tooDarkToSee := ← withDefault fields "too_dark_to_see" standard.tooDarkToSee text?
    notHere := ← withDefault fields "not_here" standard.notHere text?
    cantDo := ← withDefault fields "cant_do" standard.cantDo text?
    what := ← withDefault fields "what" standard.what text?
    nothingHappens := ← withDefault fields "nothing_happens" standard.nothingHappens text?
    emptyHanded := ← withDefault fields "empty_handed" standard.emptyHanded text?
    wait := ← withDefault fields "wait" standard.wait text?
    lightDepleted := ← withDefault fields "light_depleted" standard.lightDepleted text?
    lightLow := ← withDefault fields "light_low" standard.lightLow text? }

def settings (v : V) : Option Settings := do
  let fields ← Source.record? "EngineConfig"
    ["battery_life", "low_battery_warning", "carry_limit", "ranks", "messages"] v
  let standard : Settings := {}
  return {
    batteryLife := ← withDefault fields "battery_life" standard.batteryLife counter
    lowBatteryWarning := ← given fields "low_battery_warning" counter
    carryLimit := ← given fields "carry_limit" counter
    ranks := ← withDefault fields "ranks" [] (list settingsRank)
    messages := ← withDefault fields "messages" {} messages }

end TextAdventure.Reading
