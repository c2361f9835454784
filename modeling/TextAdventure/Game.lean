import TextAdventure.Play.Turn
import TextAdventure.Snapshot

/-!
# A game

A world, the state of a game in it, and the settings. Everything that changes
the state goes through the operations here.
-/

namespace TextAdventure

/-- The world with the carry limit and the ranks of the settings, where these
say so. -/
def World.configured (w : World) (settings : Settings) : World :=
  { w with
    carryLimit := settings.carryLimit.or w.carryLimit
    scoring := { w.scoring with
      ranks := if settings.ranks.isEmpty then w.scoring.ranks else settings.ranks } }

/-- A game that is being played. -/
structure Game where
  world : World
  state : GameState
  settings : Settings

namespace Game

def new (w : World) (settings : Settings) : Except WorldError Game := do
  let world := w.configured settings
  let state ← (← GameState.new world).relit world
  return { world, state, settings }

/-- Enters the current scene and describes it. -/
def start (g : Game) : Except WorldError String × Game :=
  let (text, state) := g.state.enterScene g.world g.state.currentScene
  (text, { g with state })

/-- Carries out a command. -/
def execute (g : Game) (command : Command) : Except WorldError Response × Game :=
  let (response, state) := g.state.execute g.world g.settings command
  (response, { g with state })

/-- The current scene as the player finds it. -/
def currentScene (g : Game) : Except WorldError SceneView :=
  g.state.sceneView g.world g.state.currentScene

/-- The game with other flags, and the light brought up to date. -/
def withFlags (g : Game) (flags : FlagSet) : Except WorldError Unit × Game :=
  let state := { g.state with flags }
  match state.relit g.world with
  | .ok state => (.ok (), { g with state })
  | .error cause => (.error cause, { g with state })

def setFlag (g : Game) (flag : Flag) : Except WorldError Unit × Game :=
  g.withFlags (g.state.flags.insert flag)

def clearFlag (g : Game) (flag : Flag) : Except WorldError Unit × Game :=
  g.withFlags (g.state.flags.erase flag)

/-- A flat copy of the state. -/
def snapshot (g : Game) : Snapshot := g.state.snapshot g.world

/-- Continues from a snapshot; one that does not fit leaves the game as it is. -/
def restore (g : Game) (snap : Snapshot) : Except WorldError Unit × Game :=
  match snap.restore g.world with
  | .ok state => (.ok (), { g with state })
  | .error cause => (.error cause, g)

/-- The flag that an author's name for it stands for in this game. -/
def flag (g : Game) (name : String) : Flag :=
  Flag.resolve g.world.hasObject g.world.hasScene name

/-- The rank that the player has earned. -/
def rank (g : Game) : Option Authored.Rank := g.state.rank g.world

/-- The score in words. -/
def scoreReport (g : Game) : String := g.state.scoreReport g.world

end Game

end TextAdventure
