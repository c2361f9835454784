import TextAdventure.Session.Loop
import TextAdventure.Settings.Load
import TextAdventure.World.Load

/-!
# Starting a game from its files

The world and the settings of a game lie in one folder. A game starts with its
title page and its first scene.
-/

namespace TextAdventure

def worldFileName : String := "world.ron"

/-- The name of the file with the settings. -/
def settingsFileName : String := "lantern.toml"

/-- The folders in which the files of a game are looked for, given the folders
around the program. -/
def dataFolders (programFolders : List String) : List String :=
  ("" :: programFolders).flatMap fun folder =>
    [Saves.inFolder folder "lantern_engine/data", Saves.inFolder folder "data"]

/-- The folder with the files of a game: the one that is `given`, or the first that
exists. -/
def dataFolder (given : Option String) (programFolders : List String) (exists? : String → Bool) :
    String :=
  given.getD (((dataFolders programFolders).find? exists?).getD "lantern_engine/data")

/-- Why a game could not be started. -/
inductive StartError where
  | load (cause : LoadError)
  | start (cause : WorldError)
  | enter (cause : WorldError)
  | play (cause : WorldError)
deriving DecidableEq, Repr

/-- The error in words, outermost first. -/
def StartError.chain : StartError → List String
  | .load cause => "while loading world" :: cause.chain
  | .start cause => ["while starting engine", cause.message]
  | .enter cause => ["while entering the start scene", cause.message]
  | .play cause => ["engine failure", cause.message]

/-- A new game in the world of a file, with the settings of another. -/
def Game.load (worldPath : String) (world settings : Option ByteArray) :
    Except StartError Game := do
  let w ← (World.load worldPath world).mapError .load
  (Game.new w (Settings.load settings)).mapError .start

namespace Session

/-- The session at the start of a game, with its title page and its first scene
printed. -/
def start (g : Game) (shelf : Saves.Shelf) (coloured : Bool) : Session :=
  let title := Screen.titlePage coloured g.world
  match g.start with
  | (.ok text, game) =>
    { game, shelf, coloured, printed := title ++ Screen.scene coloured text }
  | (.error cause, game) => { game, shelf, coloured, printed := title, outcome := .failed cause }

end Session

end TextAdventure
