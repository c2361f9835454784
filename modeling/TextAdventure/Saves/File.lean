import TextAdventure.Reading.Snapshot
import TextAdventure.Ron.Printer
import TextAdventure.Ron.Source

/-!
# Files of saved games

A snapshot is written to a RON file, field by field, and read from one.
-/

namespace TextAdventure

namespace Saves

def texts (xs : List String) : Ron.Value := .list (xs.map .text)

/-- A number that counts. -/
def count (n : Nat) : Ron.Value := .number (toString n)

def truth (b : Bool) : Ron.Value := .name ⟨if b then "true" else "false", false⟩

/-- A dictionary, in the order of its keys. -/
def dictionary {α : Type} (write : α → Ron.Value) (m : Std.ExtTreeMap String α) : Ron.Value :=
  .map (m.toList.map fun (key, a) => (.text key, write a))

end Saves

open Saves in
def Snapshot.toRon (s : Snapshot) : Ron.Value :=
  .ofFields [
    ("version", .text s.version),
    ("world", .text s.world),
    ("current_scene", .text s.currentScene),
    ("flags", dictionary truth s.flags),
    ("inventory", texts s.inventory),
    ("containers", dictionary texts s.containers),
    ("scenes", dictionary texts s.scenes),
    ("score", count s.score),
    ("turns", count s.turns),
    ("visited", texts s.visited),
    ("light_usage", dictionary count s.lightUsage)]

def Snapshot.toText (s : Snapshot) : String := s.toRon.toText

/-- The snapshot that is written in a text. -/
def Snapshot.ofText? (text : String) : Option Snapshot :=
  (Ron.Node.ofText? text).bind Reading.snapshot

end TextAdventure
