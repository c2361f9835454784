import TextAdventure.Reading.Settings
import TextAdventure.Toml.Source
import TextAdventure.World.Rank

/-!
# Loading settings

Settings are written in a TOML file. A file that is missing or cannot be used
stands for the settings that a game has by itself.
-/

namespace TextAdventure.Settings

/-- The settings that are written in a text, with the highest rank first. -/
def ofText? (text : String) : Option Settings := do
  let settings ← (Toml.Value.ofText? text).bind Reading.settings
  return { settings with ranks := ranksDescending settings.ranks }

/-- The settings in a file, if there is one with this content. -/
def load (content : Option ByteArray) : Settings :=
  ((content.bind String.fromUTF8?).bind ofText?).getD {}

end TextAdventure.Settings
