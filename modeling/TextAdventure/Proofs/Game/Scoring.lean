import TextAdventure.Proofs.Game.Light
import TextAdventure.Proofs.Play.Awards

/-!
# Scoring

A game that is only started and given commands makes awards, call by call (`Earned`), and nothing
else changes its score. In a compiled world that keeps its guards every merit is awarded once at
most over the whole game, so that the score never exceeds the highest score (`scored_once`).
-/

namespace TextAdventure

open Std GameState

namespace Game

variable {a : Authored.World} {w : World} {g : Game} {settings : Settings} {calls : List Call}
  {logs : List (List Award)}

/-- The awards that a sequence of calls makes, call by call. -/
inductive Earned : Game → List Call → List (List Award) → Prop where
  | nil (g : Game) : Earned g [] []
  | cons {g : Game} {c : Call} {calls : List Call} {log : List Award} {logs : List (List Award)}
      (hawarded : Awarded g.world g.state log (g.call c).state)
      (hrest : Earned (g.call c) calls logs) : Earned g (c :: calls) (log :: logs)

/-- All the awards together lead from the first state to the last. -/
theorem Earned.awarded (h : Earned g calls logs) :
    Awarded g.world g.state logs.flatten (g.run calls).state := by
  induction h with
  | nil g => exact .still .rfl
  | @cons g c calls log logs hawarded _ ih =>
    rw [call_world] at ih
    exact hawarded.append ih

/-- Starting a game makes no award. -/
theorem unscored_start (g : Game) : Unscored g.state (g.call .start).state :=
  (unrewarded_enterScene g.world g.state g.state.currentScene).unscored

/-- A command makes awards, and changes the score by them only. -/
theorem awarded_execute (hw : g.world.Coherent) (hkeeps : g.world.KeepsGuards) (hg : g.Settled)
    (command : Command) :
    ∃ log, Awarded g.world g.state log (g.call (.execute command)).state := by
  show ∃ log, Awarded g.world g.state log (g.state.execute g.world g.settings command).2
  rcases execute_cases hg.placed hg.here g.settings command with
    hsame | ⟨t, events, hcarried, htick⟩
  · rw [hsame]
    exact ⟨[], .still .rfl⟩
  · obtain ⟨log, hlog⟩ := awarded_of_carriedOut hw hkeeps hcarried
    have hturn : Unscored t { t with turnCount := t.turnCount + 1 } := ⟨rfl, fun _ _ hf => hf⟩
    exact ⟨_, hlog.append (.still (hturn.trans (unrewarded_tick htick).unscored))⟩

/-- Every sequence of starts and commands makes its awards. -/
theorem exists_earned (hw : g.world.Coherent) (hkeeps : g.world.KeepsGuards) (hg : g.Settled)
    (hcalls : ∀ c ∈ calls, c = .start ∨ ∃ command, c = .execute command) :
    ∃ logs, Earned g calls logs := by
  induction calls generalizing g with
  | nil => exact ⟨[], .nil g⟩
  | cons c rest ih =>
    obtain ⟨log, hlog⟩ : ∃ log, Awarded g.world g.state log (g.call c).state := by
      rcases hcalls c (List.mem_cons_self ..) with rfl | ⟨command, rfl⟩
      · exact ⟨[], .still g.unscored_start⟩
      · exact awarded_execute hw hkeeps hg command
    have hworld := call_world (g := g) c
    obtain ⟨logs, hrest⟩ := ih (hworld.symm ▸ hw) (hworld.symm ▸ hkeeps) (settled_call hg c)
      fun c' hc' => hcalls c' (List.mem_cons_of_mem _ hc')
    exact ⟨log :: logs, .cons hlog hrest⟩

/-- A new game has no points. -/
theorem score_new (hg : Game.new w settings = .ok g) : g.state.score = 0 := by
  obtain ⟨-, -, s, hs, hlit⟩ := new_eq_ok_iff.mp hg
  rw [(unrewarded_relit hlit).score]
  exact (counts_new hs).1

/-- Apart from lids, locks, lamps and the light, only initial flags hold in a new game. -/
theorem initial_of_new (hg : Game.new w settings = .ok g) {f : Flag} (hf : f.isPhysical = false)
    (h : g.state.flags.has f = true) : f ∈ w.initialFlags := by
  obtain ⟨hworld, -, s, hs, hlit⟩ := new_eq_ok_iff.mp hg
  rw [(switched_relit hlit).others f hf] at h
  rcases (has_new hs).mp h with hinitial | ⟨o, obj, -, hstart⟩
  · rw [hworld] at hinitial
    exact hinitial
  · rcases mem_startFlags hstart with rfl | rfl | rfl <;> cases hf

/-- **Points are given out once.** A compiled world in which no interaction removes a guard can be
played, and every sequence of starts and commands makes awards, call by call. No merit is awarded
twice: neither what a verb does to an object, nor the arrival in a scene. The score is what the
awards add up to, and never higher than the highest score. -/
theorem scored_once (h : World.compile a = .ok w) (hkeeps : w.KeepsGuards) (settings : Settings) :
    ∃ g, Game.new w settings = .ok g ∧ ∀ calls : List Call,
      (∀ c ∈ calls, c = .start ∨ ∃ command, c = .execute command) →
      (∃ logs, Earned g calls logs) ∧ ∀ logs, Earned g calls logs →
        (logs.flatten.map (·.merit)).Nodup ∧
        (g.run calls).state.score
          = logs.flatten.foldl (fun score award => adjust score award.points) 0 ∧
        (g.run calls).state.score ≤ w.maxScore := by
  have hw := World.coherent_of_compile h
  obtain ⟨g, hg⟩ := new_ok hw settings
  have hworld := (new_eq_ok_iff.mp hg).1
  have hrules : g.world.Coherent ∧ g.world.KeepsGuards := by
    rw [hworld]
    exact ⟨hw.configured, hkeeps⟩
  have hzero := score_new hg
  refine ⟨g, hg, fun calls hcalls => ⟨exists_earned hrules.1 hrules.2 (settled_new hg) hcalls, ?_⟩⟩
  intro logs hearned
  have hawarded := hearned.awarded
  refine ⟨hawarded.nodup_merits, ?_, ?_⟩
  · rw [hawarded.score_eq, hzero]
  · rw [(World.rules_of_resolved (World.compile_eq_ok h).2).2]
    have hscore := hawarded.score_le_highestScore hzero
    rw [hworld] at hscore
    exact hscore

/-- Searching the chest twice, going up and down in between. -/
def searchAgain : List Call :=
  search ++ [.execute { verb := "go", object := some "up" }] ++ search

/-- Going down and searching the chest earn all the points there are, and doing so again earns
none. -/
theorem cellar_scored : ∃ w g logs, World.compile cellar = .ok w ∧ Game.new w {} = .ok g ∧
    Earned g searchAgain logs ∧ (logs.flatten.map (·.merit)).Nodup ∧
    (g.run search).state.score = w.maxScore ∧
    (g.run searchAgain).state.score = (g.run search).state.score := by
  have hcheck : begun cellar (fun g => decide (g.world.KeepsGuards ∧
      (g.run search).state.score = g.world.maxScore ∧
      (g.run searchAgain).state.score = (g.run search).state.score)) = true := by
    decide +kernel
  obtain ⟨w, g, hw, hg, hgame⟩ := exists_of_begun hcheck
  have hworld := (new_eq_ok_iff.mp hg).1
  rw [decide_eq_true_iff, hworld] at hgame
  obtain ⟨hkeeps, hscore, hagain⟩ := hgame
  obtain ⟨g', hg', hscored⟩ := scored_once hw hkeeps {}
  rw [hg] at hg'
  obtain rfl := Except.ok.inj hg'
  have hcalls : ∀ c ∈ searchAgain, c = .start ∨ ∃ command, c = .execute command := by
    simp [searchAgain, search]
  obtain ⟨⟨logs, hearned⟩, hlogs⟩ := hscored searchAgain hcalls
  exact ⟨w, g, logs, hw, hg, hearned, (hlogs logs hearned).1, hscore, hagain⟩

end Game

end TextAdventure
