import TextAdventure.Proofs.Play.Flags
import TextAdventure.Proofs.Play.Handling

/-!
# Rewards

A command that takes a turn changes the score and the flags that guard it in one step at most: on
an arrival through an exit, or with the marks of an interaction (`Rewards`). Whatever comes before
that step and after it is `Unrewarded` (`stages_of_carriedOut`). Through all of this only flags
that are known to the world can come to hold. The step also says what is announced for it, the
messages of new trophies.
-/

namespace TextAdventure

open Std GameState FlagSet

/-- Flags by which points are given out once only. -/
def Flag.isGuard : Flag → Bool
  | .interactionScored _ _ | .exitScored _ => true
  | _ => false

theorem Flag.isPhysical_of_isGuard {f : Flag} (h : f.isGuard = true) : f.isPhysical = false := by
  cases f <;> first | rfl | cases h

variable {w : World} {s t u : GameState}

/-- The score has not changed, nor has any flag but those for lids, locks, lamps, the light and
visited scenes, and what is new is known. -/
structure Unrewarded (w : World) (s t : GameState) : Prop where
  score : t.score = s.score
  kept : ∀ f, f.isPhysical = false → (∀ scene, f ≠ .sceneVisited scene) →
    t.flags.has f = s.flags.has f
  known : ∀ f, t.flags.has f = true → s.flags.has f = true ∨ w.Knows f

namespace Unrewarded

theorem trans (h : Unrewarded w s t) (h' : Unrewarded w t u) : Unrewarded w s u where
  score := h'.score.trans h.score
  kept f hf hscene := (h'.kept f hf hscene).trans (h.kept f hf hscene)
  known f hf := (h'.known f hf).elim (h.known f) .inr

theorem of_switched (hscore : t.score = s.score) (h : Switched w s.flags t.flags) :
    Unrewarded w s t where
  score := hscore
  kept f hf _ := h.others f hf
  known := h.known

theorem of_sameBesides (h : SameBesides s t) : Unrewarded w s t :=
  of_switched h.score (h.flags ▸ .rfl)

theorem rfl : Unrewarded w s s := of_switched (Eq.refl _) .rfl

/-- What guards the score has not changed. -/
theorem guards (h : Unrewarded w s t) (f : Flag) (hf : f.isGuard = true) :
    t.flags.has f = s.flags.has f := by
  refine h.kept f (Flag.isPhysical_of_isGuard hf) fun scene => ?_
  rintro rfl
  cases hf

end Unrewarded

/-! ## What is not rewarded -/

namespace GameState

theorem unrewarded_relit (h : s.relit w = .ok t) : Unrewarded w s t := by
  refine .of_switched ?_ (switched_relit h)
  obtain ⟨_, rfl⟩ := onlyFlags_relit h
  rfl

/-- Entering a scene is not rewarded, whether it can be described or not. -/
theorem unrewarded_enterScene (w : World) (s : GameState) (scene : Id) :
    Unrewarded w s (s.enterScene w scene).2 := by
  obtain ⟨here, flags', heq, -⟩ := enterScene_frame w s scene
  have hscore : (s.enterScene w scene).2.score = s.score := by rw [heq]
  obtain ⟨flags, hswitched, hflags | ⟨hscene, hflags⟩⟩ := enterScene_flags w s scene
  · exact .of_switched hscore (hflags ▸ hswitched)
  · -- besides, the scene counts as visited, and it exists
    have hinside : Unrewarded w s { s with flags } := .of_switched rfl hswitched
    refine ⟨hscore, fun f hf hvisited => ?_, fun f hf => ?_⟩
    · rw [hflags, has_insert, decide_eq_false (hvisited scene).symm, Bool.false_or]
      exact hinside.kept f hf hvisited
    · rw [hflags, has_insert, Bool.or_eq_true, decide_eq_true_iff] at hf
      rcases hf with rfl | hf
      · exact .inr hscene
      · exact hinside.known f hf

/-- A turn that passes is not rewarded. -/
theorem unrewarded_tick {policy : BatteryPolicy} {events : List LightEvent}
    (h : s.tick w policy = .ok (t, events)) : Unrewarded w s t := by
  refine .of_switched ?_ (switched_tick h)
  obtain ⟨_, _, rfl⟩ := onlyBurnt_tick h
  rfl

end GameState

namespace Action

variable {a : Action} {lines : List String}

theorem unrewarded_changeState (h : a.changeState w s = .ok t) : Unrewarded w s t := by
  refine .of_switched ?_ (switched_changeState h)
  obtain ⟨_, rfl⟩ := onlyFlags_changeState h
  rfl

theorem unrewarded_changeScene (h : a.changeScene w s = .ok (t, lines)) : Unrewarded w s t := by
  unfold changeScene at h
  split at h
  · rename_i scene _
    have hentered := unrewarded_enterScene w s scene
    split at h
    · rename_i text u hu
      obtain ⟨rfl, -⟩ := Prod.mk.inj (Except.ok.inj h)
      rw [hu] at hentered
      exact hentered
    · cases h
  · obtain ⟨rfl, -⟩ := Prod.mk.inj (Except.ok.inj h)
    exact .rfl

end Action

/-! ## What is rewarded -/

/-- The one step of a command that can be rewarded, with what is announced. -/
inductive Rewards (w : World) (s : GameState) : List String → GameState → Prop where
  | nothing : Rewards w s [] s
  | arrival {here : Id} {sc : Scene} {e : Exit} {messages : List String} {t : GameState}
      (hscene : w.scenes[here]? = some sc) (hexit : e ∈ sc.exits)
      (h : s.awardOnce w (.exitScored e.destination) (min e.score exitPointsLimit : Nat)
        = some (t, messages)) : Rewards w s messages t
  | marks {a : Action} {i : Interaction} {trophies : List String} {t : GameState}
      (hobject : w.objects[a.object.id]? = some a.object)
      (hentry : a.object.interactions[a.verb]? = some i)
      (h : a.applyMarks w s i = .ok (t, trophies)) : Rewards w s trophies t

/-- Going through an exit is rewarded on arrival. -/
theorem stages_of_traverse {here : Id} {sc : Scene} {e : Exit} {arrival : Arrival}
    (hscene : w.scenes[here]? = some sc) (hexit : e ∈ sc.exits)
    (h : s.traverse w e = (.ok arrival, t)) :
    ∃ u, Unrewarded w s u ∧ Rewards w u arrival.achievements t := by
  obtain ⟨u, hu, hawarded⟩ := traverse_eq_ok h
  have hentered := unrewarded_enterScene w s e.destination
  rw [hu] at hentered
  refine ⟨u, hentered, ?_⟩
  rcases hawarded with ⟨-, harrival, rfl⟩ | ⟨-, -, haward⟩
  · rw [harrival]
    exact .nothing
  · exact .arrival hscene hexit haward

/-- An action is rewarded with the marks of its interaction. -/
theorem stages_of_prepared {a : Action} {trophies lines : List String}
    (hobject : w.objects[a.object.id]? = some a.object)
    (hentry : a.entry = a.object.interactions[a.verb]?) (hprepared : a.Prepared w s trophies u)
    (hscene : a.changeScene w u = .ok (t, lines)) :
    ∃ before v, Unrewarded w s before ∧ Rewards w before trophies v ∧ Unrewarded w v t := by
  obtain ⟨s₁, s₂, s₃, hstate, hmarks, hmoves, hlit⟩ := hprepared
  refine ⟨s₁, s₂, Action.unrewarded_changeState hstate, ?_, ?_⟩
  · unfold Action.leaveMarks at hmarks
    split at hmarks
    · rename_i i hi
      rw [liftM_refusal_eq_ok] at hmarks
      rw [hentry] at hi
      exact .marks hobject hi hmarks
    · obtain ⟨rfl, rfl⟩ := Prod.mk.inj (Except.ok.inj hmarks)
      exact .nothing
  · exact ((Unrewarded.of_sameBesides (Action.sameBesides_moveObjects hmoves)).trans
      (unrewarded_relit hlit)).trans (Action.unrewarded_changeScene hscene)

section Commands

variable {messages : Messages} {command : Command} {story trophies : List String}

/-- The object of a planned action is listed under its own id. -/
theorem Planned.listed (hw : w.Coherent) {a : Action} (h : Planned w messages s command a) :
    w.objects[a.object.id]? = some a.object := by
  obtain ⟨noun, -, hlocated⟩ := h.object
  obtain ⟨id, lit, -, ho, -⟩ := locate_eq_object hlocated
  rw [hw.key id _ ho, ho]

/-- The stages of a command that takes a turn, with what it announces. -/
theorem stages_of_told (hw : w.Coherent) (h : Told w messages s command story trophies t) :
    ∃ u v, Unrewarded w s u ∧ Rewards w u trophies v ∧ Unrewarded w v t := by
  cases h with
  | waited => exact ⟨s, s, .rfl, .nothing, .rfl⟩
  | went _ hexit _ htraverse =>
    obtain ⟨sc, hscene, he⟩ := mem_of_findExit hexit
    obtain ⟨u, hentered, hrewards⟩ := stages_of_traverse hscene he htraverse
    exact ⟨u, t, hentered, hrewards, .rfl⟩
  | acted _ hplan hprepared hscene _ _ =>
    have hplanned := planned_of_plan hplan
    exact stages_of_prepared (hplanned.listed hw) hplanned.entry hprepared hscene

/-- **The stages of a command that takes a turn**: one of them at most is rewarded. -/
theorem stages_of_carriedOut (hw : w.Coherent) (h : CarriedOut w messages s command t) :
    ∃ u v trophies, Unrewarded w s u ∧ Rewards w u trophies v ∧ Unrewarded w v t := by
  cases h with
  | waited => exact ⟨s, s, [], .rfl, .nothing, .rfl⟩
  | went _ hexit htraverse =>
    obtain ⟨sc, hscene, he⟩ := mem_of_findExit hexit
    obtain ⟨u, hentered, hrewards⟩ := stages_of_traverse hscene he htraverse
    exact ⟨u, t, _, hentered, hrewards, .rfl⟩
  | acted _ hplan happly =>
    have hplanned := planned_of_plan hplan
    obtain ⟨trophies, _, _, hprepared, hscene, -⟩ := Action.apply_eq_ok_iff.mp happly
    obtain ⟨u, v, hstages⟩ :=
      stages_of_prepared (hplanned.listed hw) hplanned.entry hprepared hscene
    exact ⟨u, v, trophies, hstages⟩

end Commands

/-- Rewards make known flags hold only. -/
theorem Rewards.known (hw : w.Coherent) (hflags : w.Flagwise) {trophies : List String}
    (h : Rewards w s trophies t) :
    ∀ f, t.flags.has f = true → s.flags.has f = true ∨ w.Knows f := by
  cases h with
  | nothing => exact fun f hf => .inl hf
  | arrival hscene hexit h => exact known_awardOnce h (hw.exits _ _ hscene _ hexit)
  | @marks a i trophies _ hobject hentry h =>
    obtain ⟨u, hreveal, hmarked⟩ := Action.applyMarks_eq_ok h
    obtain ⟨-, -, hrevealed⟩ := Action.reveal_eq_ok hreveal
    have hgranted : ∀ f, (i.marked s.flags).has f = true → s.flags.has f = true ∨ w.Knows f := by
      intro f hf
      rw [Interaction.has_marked, Bool.and_eq_true, Bool.or_eq_true, decide_eq_true_iff] at hf
      rcases hf.2 with hf | hf
      · exact .inr (hflags.grants _ _ _ _ hobject hentry f hf)
      · exact .inl hf
    -- from the last step to the first: revealed, awarded, granted
    intro f hf
    rcases hrevealed f hf with hf | hf
    · rcases hmarked with ⟨rfl, -⟩ | ⟨-, haward⟩
      · exact hgranted f hf
      · have hguard : w.Knows (a.verb.scoreGuard a.object.id) :=
          World.hasObject_iff.mpr ⟨a.object, hobject⟩
        rcases known_awardOnce haward hguard f hf with hf | hf
        · exact hgranted f hf
        · exact .inr hf
    · exact .inr hf

end TextAdventure
