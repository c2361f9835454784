import TextAdventure.Proofs.Game.Scoring
import TextAdventure.Proofs.Play.Visits

/-!
# Visits in a game

In a game that is started and then given commands, in a world that is silent about visits, those
scenes are marked where the player has been. A command that enters a scene shows it with the marks
of the time before, so that a text for a return visit is for those who return
(`visits_are_history`).
-/

namespace TextAdventure

open Std GameState

/-! ## A crossing -/

namespace Game

/-- The calls of a game that is started and then given commands. -/
def played (commands : List Command) : List Call := .start :: commands.map .execute

/-- Scenes are marked by entering them only, and the one where the player is is marked. -/
structure Remembering (g : Game) : Prop where
  coherent : g.world.Coherent
  silent : g.world.Silent Flag.isVisit
  settled : g.Settled
  here : g.state.isVisited g.state.currentScene = true

variable {a : Authored.World} {w : World} {g : Game} {settings : Settings} {id : Id}
  {commands : List Command} {command : Command}

/-! ## Commands -/

theorem Remembering.marked (hg : g.Remembering) (command : Command) :
    Marked g.state (g.call (.execute command)).state :=
  marked_execute hg.coherent hg.silent hg.settled.placed hg.settled.here hg.here g.settings command

theorem Remembering.execute (hg : g.Remembering) (command : Command) :
    (g.call (.execute command)).Remembering where
  coherent := hg.coherent
  silent := hg.silent
  settled := settled_call hg.settled _
  here := by rw [hg.marked command, decide_eq_true rfl, Bool.or_true]

end Game

end TextAdventure
