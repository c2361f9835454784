import TextAdventure.Reading.Source
import TextAdventure.Snapshot

/-!
# Reading snapshots

Every field of a snapshot must be there.
-/

namespace TextAdventure.Reading

variable {V : Type} [Source V]

open Source (text? bool?)

def snapshot (v : V) : Option Snapshot := do
  let fields ← Source.record? "StateSnapshot"
    ["version", "world", "current_scene", "flags", "inventory", "containers", "scenes",
      "score", "turns", "visited", "light_usage"] v
  return {
    version := ← required fields "version" text?
    world := ← required fields "world" text?
    currentScene := ← required fields "current_scene" text?
    flags := ← required fields "flags" (dictionary bool?)
    inventory := ← required fields "inventory" texts
    containers := ← required fields "containers" (dictionary texts)
    scenes := ← required fields "scenes" (dictionary texts)
    score := ← required fields "score" counter
    turnCount := (← required fields "turns" counter).toUInt32
    visited := ← required fields "visited" texts
    lightUsage := ← required fields "light_usage" (dictionary counter) }

end TextAdventure.Reading
