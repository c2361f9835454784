import TextAdventure.Saves.Age
import TextAdventure.Saves.Name
import TextAdventure.Text.Split

/-!
# Slots

What the name of a file tells about a saved game: the slot, and the version that
wrote it. The lists of slots have a fixed order, whatever order the files are
found in.
-/

namespace TextAdventure.Saves

/-- A saved game, as far as the name and the time of its file tell. -/
structure Slot where
  name : String
  version : String
  /-- The time of the file, where it can be told. -/
  written : Option Moment
deriving DecidableEq, Repr, Inhabited

namespace Slot

def fileName (s : Slot) : String := s.name ++ versionMark ++ s.version ++ fileEnding

/-- The slot of the file with this name, if it is the name of a saved game. -/
def ofFileName? (file : String) (written : Option Moment) : Option Slot := do
  let stem ← Text.before? fileEnding file
  let (name, version) ← Text.cutLast? versionMark stem
  if name.isEmpty then none else some { name, version, written }

/-- By name, then by version. -/
def byName (a b : Slot) : Bool := a.name < b.name || (a.name == b.name && a.version ≤ b.version)

/-- The newest first, then by name. -/
def newestFirst (a b : Slot) : Bool :=
  if a.written = b.written then a.name ≤ b.name else noLater b.written a.written

def isCurrent (s : Slot) : Bool := s.version == engineVersion

/-- Those of this version first, then the newest first. -/
def preferred (a b : Slot) : Bool :=
  if a.isCurrent == b.isCurrent then noLater b.written a.written else a.isCurrent

end Slot

end TextAdventure.Saves
