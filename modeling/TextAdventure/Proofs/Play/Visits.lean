import TextAdventure.Proofs.Play.Answers
import TextAdventure.Proofs.Play.Permission
import TextAdventure.Proofs.Play.Silence

/-!
# Visits

A command enters a scene in one of two ways: the player walks through an exit, or is sent there by
an interaction once everything else is done (`Enters`). Either way the scene is described as it is
found, with the marks of the visits before, and is marked itself after that (`perform_of_enters`).
No other step changes the marks, as long as the world is silent about them; so after a command
those scenes are marked that were marked before it, and the one where the player then is
(`marked_execute`).
-/

namespace TextAdventure

open Std GameState FlagSet

/-- Flags for scenes that have been visited. -/
def Flag.isVisit : Flag → Bool
  | .sceneVisited _ => true
  | _ => false

variable {w : World} {s t u : GameState} {scene : Id}

/-! ## Staying -/

/-- The player is in the same scene, and the same scenes are marked. -/
structure Stayed (s t : GameState) : Prop where
  here : t.currentScene = s.currentScene
  visited : ∀ scene, t.isVisited scene = s.isVisited scene

namespace Stayed

theorem rfl : Stayed s s := ⟨Eq.refl _, fun _ => Eq.refl _⟩

theorem trans (h : Stayed s t) (h' : Stayed t u) : Stayed s u where
  here := h'.here.trans h.here
  visited scene := (h'.visited scene).trans (h.visited scene)

theorem of_switched (hhere : t.currentScene = s.currentScene)
    (h : Switched w s.flags t.flags) : Stayed s t where
  here := hhere
  visited scene := h.others (.sceneVisited scene) (Eq.refl _)

end Stayed

theorem stayed_relit (h : s.relit w = .ok t) : Stayed s t := by
  refine .of_switched ?_ (switched_relit h)
  obtain ⟨_, rfl⟩ := onlyFlags_relit h
  rfl

theorem stayed_tick {policy : BatteryPolicy} {events : List LightEvent}
    (h : s.tick w policy = .ok (t, events)) : Stayed s t := by
  refine .of_switched ?_ (switched_tick h)
  obtain ⟨_, _, rfl⟩ := onlyBurnt_tick h
  rfl

/-! ## Actions -/

namespace Action

variable {a : Action} {i : Interaction} {trophies lines : List String}

theorem stayed_changeState (h : a.changeState w s = .ok t) : Stayed s t := by
  refine .of_switched ?_ (switched_changeState h)
  obtain ⟨_, rfl⟩ := onlyFlags_changeState h
  rfl

/-- An interaction that names no visits leaves their marks alone. -/
theorem stayed_applyMarks (hsilent : ∀ f ∈ i.grants ++ i.removes, f.isVisit = false)
    (h : a.applyMarks w s i = .ok (t, trophies)) : Stayed s t := by
  constructor
  case here =>
    obtain ⟨_, _, rfl⟩ := onlyMarks_applyMarks h
    rfl
  case visited =>
    intro scene
    have hunnamed : ∀ fs ⊆ i.grants ++ i.removes, Flag.sceneVisited scene ∉ fs :=
      fun fs hsub hmem => Bool.false_ne_true (hsilent _ (hsub hmem)).symm
    have hmarked : (i.marked s.flags).has (.sceneVisited scene) = s.isVisited scene := by
      rw [Interaction.has_marked, decide_eq_false (hunnamed _ (List.subset_append_right ..)),
        decide_eq_false (hunnamed _ (List.subset_append_left ..))]
      rfl
    obtain ⟨u, hreveal, hawarded⟩ := applyMarks_eq_ok h
    show t.flags.has (.sceneVisited scene) = _
    rw [has_reveal hreveal fun _ => Flag.noConfusion, ← hmarked]
    rcases hawarded with ⟨rfl, -⟩ | ⟨-, haward⟩
    · rfl
    · obtain ⟨-, -, hhas⟩ := awardOnce_eq_some haward
      have hguard : a.verb.scoreGuard a.object.id ≠ .sceneVisited scene := Flag.noConfusion
      rw [hhas _ fun _ => Flag.noConfusion, decide_eq_false hguard, Bool.false_or]

/-- Up to its last stage an action that names no visits leaves the player and the marks. -/
theorem Prepared.stayed (hsilent : ∀ i, a.entry = some i →
      ∀ f ∈ i.grants ++ i.removes, f.isVisit = false)
    (h : a.Prepared w s trophies t) : Stayed s t := by
  obtain ⟨s₁, s₂, s₃, hstate, hmarks, hmoves, hlit⟩ := h
  have hmarked : Stayed s₁ s₂ := by
    unfold leaveMarks at hmarks
    split at hmarks
    · rename_i i hi
      rw [liftM_refusal_eq_ok] at hmarks
      exact stayed_applyMarks (hsilent i hi) hmarks
    · obtain ⟨rfl, -⟩ := Prod.mk.inj (Except.ok.inj hmarks)
      exact .rfl
  have hsame := sameBesides_moveObjects hmoves
  have hmoved : Stayed s₂ s₃ := ⟨hsame.currentScene, fun scene => by
    unfold isVisited
    rw [hsame.flags]⟩
  exact (((stayed_changeState hstate).trans hmarked).trans hmoved).trans (stayed_relit hlit)

/-- Up to its last stage an action leaves everything placed. -/
theorem Prepared.placed (hs : Placed w s) (h : a.Prepared w s trophies t) : Placed w t := by
  obtain ⟨s₁, s₂, s₃, hstate, hmarks, hmoves, hlit⟩ := h
  have hbefore := ((onlyFlags_changeState hstate).onlyMarks.trans (onlyMarks_leaveMarks hmarks))
  obtain ⟨log, hmoved⟩ := deed_of_moveObjects hmoves
  exact (onlyFlags_relit hlit).onlyMarks.sameHolders.placed
    (hmoved.moved.placed (hbefore.sameHolders.placed hs))

end Action

/-! ## Marks -/

/-- The scenes that are marked after a step: those before it, and the one where the player is. -/
def Marked (s t : GameState) : Prop :=
  ∀ scene, t.isVisited scene = (s.isVisited scene || decide (t.currentScene = scene))

namespace Stayed

/-- Where the player is in a marked scene and stays, nothing is marked. -/
theorem marked (h : Stayed s t) (hhere : s.isVisited s.currentScene = true) : Marked s t := by
  intro scene
  rw [h.visited, h.here]
  by_cases heq : s.currentScene = scene
  · rw [← heq, hhere, Bool.true_or]
  · rw [decide_eq_false heq, Bool.or_false]

theorem marked_after (h : Stayed s t) (h' : Marked t u) : Marked s u := by
  intro scene
  rw [h', h.visited]

theorem marked_before (h : Marked s t) (h' : Stayed t u) : Marked s u := by
  intro scene
  rw [h'.visited, h, h'.here]

end Stayed

/-- A scene that is entered is marked. -/
theorem marked_enterScene {text : String} (h : s.enterScene w scene = (.ok text, t)) :
    Marked s t := by
  have hhere : t.currentScene = scene := by
    obtain ⟨-, _, rfl⟩ := enterScene_eq h
    rfl
  intro id
  unfold isVisited
  rw [has_entered h Flag.noConfusion, Bool.or_comm, hhere]
  simp [eq_comm]

section Commands

variable {messages : Messages} {settings : Settings} {command : Command} {a : Action}

/-- What is planned names no visits in a world that is silent about them. -/
theorem Planned.unnamed (hw : w.Coherent) (hsilent : w.Silent Flag.isVisit)
    (h : Planned w messages s command a) :
    ∀ i, a.entry = some i → ∀ f ∈ i.grants ++ i.removes, f.isVisit = false := by
  intro i hi
  rw [h.entry] at hi
  exact hsilent.2 _ _ _ _ (h.listed hw) hi

/-- An action marks the scene where it leads. -/
theorem marked_apply (hunnamed : ∀ i, a.entry = some i →
      ∀ f ∈ i.grants ++ i.removes, f.isVisit = false)
    (hhere : s.isVisited s.currentScene = true) {lines : List String}
    (h : a.apply w s = .ok (t, lines)) : Marked s t := by
  obtain ⟨trophies, u, arrival, hprepared, hscene, -⟩ := Action.apply_eq_ok_iff.mp h
  have hstayed := hprepared.stayed hunnamed
  unfold Action.changeScene at hscene
  split at hscene
  · split at hscene
    · rename_i text v hv
      obtain ⟨rfl, -⟩ := Prod.mk.inj (Except.ok.inj hscene)
      exact hstayed.marked_after (marked_enterScene hv)
    · cases hscene
  · obtain ⟨rfl, -⟩ := Prod.mk.inj (Except.ok.inj hscene)
    exact hstayed.marked hhere

/-- Going through an exit marks its target. -/
theorem marked_traverse {e : Exit} {arrival : Arrival} (h : s.traverse w e = (.ok arrival, t)) :
    Marked s t := by
  obtain ⟨u, hu, hawarded⟩ := traverse_eq_ok h
  have hmarked := marked_enterScene hu
  rcases hawarded with ⟨-, -, rfl⟩ | ⟨-, -, haward⟩
  · exact hmarked
  · refine Stayed.marked_before hmarked ⟨?_, fun scene => ?_⟩
    · obtain ⟨_, _, rfl⟩ := onlyMarks_awardOnce haward
      rfl
    · obtain ⟨-, -, hhas⟩ := awardOnce_eq_some haward
      unfold isVisited
      rw [hhas _ fun _ => Flag.noConfusion, decide_eq_false Flag.noConfusion, Bool.false_or]

/-- **Every command** marks the scene where the player is after it. -/
theorem marked_execute (hw : w.Coherent) (hsilent : w.Silent Flag.isVisit) (hs : Placed w s)
    (hhere : w.hasScene s.currentScene = true) (hmark : s.isVisited s.currentScene = true)
    (settings : Settings) (command : Command) : Marked s (s.execute w settings command).2 := by
  rcases execute_cases hs hhere settings command with hsame | ⟨t, events, hcarried, htick⟩
  · rw [hsame]
    exact Stayed.rfl.marked hmark
  · have hmarked : Marked s t := by
      cases hcarried with
      | waited => exact Stayed.rfl.marked hmark
      | went _ _ htraverse => exact marked_traverse htraverse
      | acted _ hplan happly =>
        exact marked_apply ((planned_of_plan hplan).unnamed hw hsilent) hmark happly
    have hturn : Stayed t { t with turnCount := t.turnCount + 1 } := ⟨rfl, fun _ => rfl⟩
    exact Stayed.marked_before hmarked (hturn.trans (stayed_tick htick))

/-! ## Entering a scene -/

/-- The command enters the scene from the state before: the player walks there, or is sent there by
an interaction after everything else that it does. -/
inductive Enters (w : World) (messages : Messages) (s : GameState) (command : Command) :
    Id → GameState → Prop where
  | walked {token : String} {e : Exit} (hheading : command.heading? = some token)
      (hexit : w.findExit s.currentScene token = .ok (some e))
      (hpassage : s.passage w messages e = .ok .allowed) :
      Enters w messages s command e.destination s
  | sent {a : Action} {i : Interaction} {trophies : List String} {before : GameState} {scene : Id}
      (hheading : command.heading? = none) (hplan : s.plan w messages command = .ok (.act a))
      (hprepared : a.Prepared w s trophies before) (hentry : a.entry = some i)
      (hscene : i.targetScene = some scene) : Enters w messages s command scene before

/-- Up to the moment when a command enters a scene the player stays and nothing is marked. -/
theorem Enters.stayed (hw : w.Coherent) (hsilent : w.Silent Flag.isVisit) {before : GameState}
    (h : Enters w messages s command scene before) : Stayed s before := by
  cases h with
  | walked => exact .rfl
  | sent _ hplan hprepared => exact hprepared.stayed ((planned_of_plan hplan).unnamed hw hsilent)

/-- The scene as it is found on entering it. -/
structure Beheld (w : World) (before : GameState) (scene : Id) (here : GameState)
    (view : SceneView) : Prop where
  lit : GameState.relit { before with currentScene := scene } w = .ok here
  seen : here.sceneView w scene = .ok view

/-- What is found has the marks of the state before. -/
theorem Beheld.visited {before here : GameState} {view : SceneView}
    (h : Beheld w before scene here view) (id : Id) : here.isVisited id = before.isVisited id :=
  (stayed_relit h.lit).visited id

end Commands

end TextAdventure
