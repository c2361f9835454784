import TextAdventure.Proofs.Play.Silence

/-!
# Why flags hold

A world makes a flag hold for one of a few reasons, each of which can be read off the world: it is
an initial flag, an interaction grants it, the rules of the game set it, or points are given out
under it (`World.Causes`). Nothing holds without one: a state that is `Caused` stays so through
every command (`caused_execute`).
-/

namespace TextAdventure

open Std GameState FlagSet

/-- The world has a reason to make the flag hold. -/
inductive World.Causes (w : World) : Flag → Prop
  | initial {f : Flag} (hf : f ∈ w.initialFlags) : Causes w f
  | granted {id : Id} {o : Object} {verb : Verb} {i : Interaction} {f : Flag}
      (ho : w.objects[id]? = some o) (hi : o.interactions[verb]? = some i) (hf : f ∈ i.grants) :
      Causes w f
  /-- Lids, locks, lamps and the light. -/
  | ruled {f : Flag} (hf : f.isPhysical = true) (hknown : w.Knows f) : Causes w f
  | revealed {id : Id} (ho : w.hasObject id = true) : Causes w (.objectRevealed id)
  | visited {scene : Id} (hscene : w.hasScene scene = true) : Causes w (.sceneVisited scene)
  /-- An interaction that earns points, or costs some. -/
  | scored {o : Object} {verb : Verb} {i : Interaction} (ho : w.objects[o.id]? = some o)
      (hi : o.interactions[verb]? = some i) (hscore : i.score ≠ 0) :
      Causes w (verb.scoreGuard o.id)
  | arrived {here : Id} {sc : Scene} {e : Exit} (hscene : w.scenes[here]? = some sc)
      (hexit : e ∈ sc.exits) : Causes w (.exitScored e.destination)
  | decorated {a : Authored.Achievement} (ha : a ∈ w.scoring.achievements) :
      Causes w (.achievement a.id)

/-- Every flag that holds has a cause in the world. -/
def GameState.Caused (w : World) (s : GameState) : Prop :=
  ∀ f, s.flags.has f = true → w.Causes f

variable {w : World} {s t : GameState}

/-! ## Steps -/

/-- What is not rewarded is caused by the rules of the game, or by entering a scene. -/
theorem Unrewarded.caused (h : Unrewarded w s t) (hs : s.Caused w) : t.Caused w := by
  intro f hf
  by_cases hphysical : f.isPhysical = true
  · exact (h.known f hf).elim (hs f) (.ruled hphysical)
  · by_cases hvisited : ∃ scene, f = .sceneVisited scene
    · obtain ⟨scene, rfl⟩ := hvisited
      exact (h.known _ hf).elim (hs _) .visited
    · rw [h.kept f (Bool.eq_false_iff.mpr hphysical) fun scene hscene =>
        hvisited ⟨scene, hscene⟩] at hf
      exact hs f hf

/-- Besides its guard an award makes only trophies of the world hold. -/
theorem GameState.caused_awardOnce {guardFlag : Flag} {points : Int} {messages : List String}
    (h : s.awardOnce w guardFlag points = some (t, messages)) (hguard : w.Causes guardFlag)
    (hs : s.Caused w) : t.Caused w := by
  obtain ⟨-, -, hhas⟩ := has_awardOnce h
  intro f hf
  rcases (hhas f).mp hf with hf | rfl | ⟨a, ha, rfl, -⟩
  · exact hs f hf
  · exact hguard
  · exact .decorated ha

/-- What an interaction leaves behind is granted by it, or revealed. -/
theorem Action.caused_reveal {ids : List Id} (h : Action.reveal w s ids = .ok t)
    (hs : s.Caused w) : t.Caused w := by
  intro f hf
  by_cases hrevealed : ∃ id, f = .objectRevealed id
  · obtain ⟨id, rfl⟩ := hrevealed
    exact ((Action.reveal_eq_ok h).2.2 _ hf).elim (hs _) .revealed
  · rw [Action.has_reveal h fun id hid => hrevealed ⟨id, hid⟩] at hf
    exact hs f hf

/-- **The rewarded step** makes only flags hold that have a cause. -/
theorem Rewards.caused {trophies : List String} (h : Rewards w s trophies t) (hs : s.Caused w) :
    t.Caused w := by
  cases h with
  | nothing => exact hs
  | arrival hscene hexit h => exact caused_awardOnce h (.arrived hscene hexit) hs
  | @marks a i _ _ hobject hentry h =>
    obtain ⟨u, hreveal, hmarked⟩ := Action.applyMarks_eq_ok h
    have hgranted : GameState.Caused w { s with flags := i.marked s.flags } := by
      intro f hf
      have hf : (i.marked s.flags).has f = true := hf
      rw [Interaction.has_marked, Bool.and_eq_true, Bool.or_eq_true, decide_eq_true_iff] at hf
      exact hf.2.elim (.granted hobject hentry) (hs f)
    refine Action.caused_reveal hreveal ?_
    rcases hmarked with ⟨rfl, -⟩ | ⟨hscore, haward⟩
    · exact hgranted
    · exact caused_awardOnce haward (.scored hobject hentry hscore) hgranted

/-! ## Commands -/

namespace GameState

/-- **Every command** leaves a state in which every flag that holds has a cause. -/
theorem caused_execute (hw : w.Coherent) (hplaced : Placed w s)
    (hhere : w.hasScene s.currentScene = true) (hs : s.Caused w) (settings : Settings)
    (command : Command) : (s.execute w settings command).2.Caused w := by
  rcases execute_cases hplaced hhere settings command with hsame | ⟨t, events, hcarried, htick⟩
  · rw [hsame]
    exact hs
  · obtain ⟨u, v, trophies, hbefore, hrewards, hafter⟩ := stages_of_carriedOut hw hcarried
    have hcaused : t.Caused w := hafter.caused (hrewards.caused (hbefore.caused hs))
    have hended : GameState.Caused w { t with turnCount := t.turnCount + 1 } := hcaused
    exact (unrewarded_tick htick).caused hended

end GameState

end TextAdventure
