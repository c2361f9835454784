import TextAdventure.Proofs.Play.Rewards

/-!
# Flags that nobody names

The author of a world names flags in three places: among the initial flags, and among what
interactions grant and remove. A world is `Silent` about flags of a kind when it names none of
them there. Such a flag can be changed by the rules of the game only, and commands by themselves
change only what is `Flag.isRoutine`; so any other flag that the world is silent about comes
through every command unchanged (`has_of_carriedOut`).
-/

namespace TextAdventure

open Std GameState FlagSet

/-- No initial flag is of the kind, and no interaction grants or removes one that is. -/
def World.Silent (w : World) (kind : Flag → Bool) : Prop :=
  (∀ f ∈ w.initialFlags, kind f = false) ∧
    ∀ (id : Id) (o : Object) (verb : Verb) (i : Interaction), w.objects[id]? = some o →
      o.interactions[verb]? = some i → ∀ f ∈ i.grants ++ i.removes, kind f = false

instance (w : World) (kind : Flag → Bool) : Decidable (w.Silent kind) :=
  decidable_of_iff ((∀ f ∈ w.initialFlags, kind f = false) ∧
      ∀ e ∈ w.objects.toList, ∀ i ∈ e.2.interactions.toList, ∀ f ∈ i.2.grants ++ i.2.removes,
        kind f = false)
    ⟨fun ⟨hinitial, h⟩ => ⟨hinitial, fun id o verb i ho hi =>
        h (id, o) (ExtTreeMap.mem_toList_iff_getElem?_eq_some.mpr ho)
          (verb, i) (ExtTreeMap.mem_toList_iff_getElem?_eq_some.mpr hi)⟩,
      fun ⟨hinitial, h⟩ => ⟨hinitial, fun e he i hi =>
        h e.1 e.2 i.1 i.2 (ExtTreeMap.mem_toList_iff_getElem?_eq_some.mp he)
          (ExtTreeMap.mem_toList_iff_getElem?_eq_some.mp hi)⟩⟩

/-- Flags that the rules of the game set and clear during a command: lids, locks, switches and the
light, what is revealed and visited, what has been scored, and trophies. -/
def Flag.isRoutine : Flag → Bool
  | .lightDead _ | .custom _ => false
  | _ => true

variable {w : World} {s t : GameState} {f : Flag}

/-- What is not routine is none of the flags that are. -/
theorem Flag.ne_of_isRoutine (hf : f.isRoutine = false) (g : Flag)
    (hg : g.isRoutine = true := by rfl) : f ≠ g := by
  rintro rfl
  rw [hg] at hf
  cases hf

/-! ## The rules of the game -/

namespace GameState

theorem has_relit (h : s.relit w = .ok t) (hf : f ≠ .light) : t.flags.has f = s.flags.has f := by
  obtain ⟨lit, -, rfl⟩ := relit_eq_ok_iff.mp h
  simp [hf.symm]

/-- Switching changes the flag of the switch and the light. -/
theorem has_switchOn {id : Id} (h : s.switchOn w id = .ok t) (hf : f ≠ .light)
    (hf' : f ≠ .lightOn id) : t.flags.has f = s.flags.has f := by
  unfold switchOn at h
  simp only [bind_eq_ok] at h
  obtain ⟨o, -, h⟩ := h
  split at h
  · cases h
  · split at h
    · cases h
    · cases h
    · rw [has_relit (mapError_eq_ok.mp h) hf]
      simp [hf'.symm]

theorem has_switchOff {id : Id} (h : s.switchOff w id = .ok t) (hf : f ≠ .light)
    (hf' : f ≠ .lightOn id) : t.flags.has f = s.flags.has f := by
  unfold switchOff at h
  simp only [bind_eq_ok] at h
  obtain ⟨o, -, h⟩ := h
  split at h
  · cases h
  · split at h
    · rw [has_relit (mapError_eq_ok.mp h) hf]
      simp [hf'.symm]
    · cases h
    · cases h

/-- Entering a scene changes the light and whether the scene has been visited. -/
theorem has_enterScene (w : World) (s : GameState) (scene : Id) (hf : f ≠ .light)
    (hf' : f ≠ .sceneVisited scene) : (s.enterScene w scene).2.flags.has f = s.flags.has f := by
  unfold enterScene
  split
  · rfl
  · simp only
    split
    · rfl
    · rename_i u hu
      have hlit : u.flags.has f = s.flags.has f :=
        has_relit (s := { s with currentScene := scene }) hu hf
      split
      · exact hlit
      · simp [hf'.symm, hlit]

/-- A scene that has been entered counts as visited, and besides that only the light changes. -/
theorem has_entered {scene : Id} {text : String} (h : s.enterScene w scene = (.ok text, t))
    (hf : f ≠ .light) : t.flags.has f = (decide (f = .sceneVisited scene) || s.flags.has f) := by
  obtain ⟨-, here, view, hhere, -, -, rfl⟩ := enterScene_eq_ok_iff.mp h
  have hlit := has_relit hhere hf
  simp only [FlagSet.has_insert, hlit, eq_comm (a := f)]

end GameState

namespace Action

variable {a : Action} {i : Interaction} {trophies lines : List String}

/-- What is built in changes lids, locks, switches and the light. -/
theorem has_changeState (h : a.changeState w s = .ok t) (hf : f.isRoutine = false) :
    t.flags.has f = s.flags.has f := by
  have hlid := f.ne_of_isRoutine hf (.objectOpen a.object.id)
  have hlock := f.ne_of_isRoutine hf (.objectLocked a.object.id)
  have hlight := f.ne_of_isRoutine hf .light
  have hswitch := f.ne_of_isRoutine hf (.lightOn a.object.id)
  unfold changeState at h
  split at h
  · unfold builtinState at h
    split at h
    · rw [(changeLid_eq_ok (mapError_eq_ok.mp h)).2]
      simp [hlid.symm]
    · rw [(changeLid_eq_ok (mapError_eq_ok.mp h)).2]
      simp [hlid.symm]
    · rw [(changeLid_eq_ok (mapError_eq_ok.mp h)).2]
      simp [hlock.symm]
    · rw [(changeLid_eq_ok (mapError_eq_ok.mp h)).2]
      simp [hlock.symm]
    · exact has_switchOn (mapError_eq_ok.mp h) hlight hswitch
    · exact has_switchOff (mapError_eq_ok.mp h) hlight hswitch
    · rw [← Except.ok.inj h]
  · rw [← Except.ok.inj h]

theorem has_reveal {ids : List Id} (h : reveal w s ids = .ok t)
    (hf : ∀ id, f ≠ .objectRevealed id) : t.flags.has f = s.flags.has f := by
  induction ids generalizing s with
  | nil => rw [pure_eq_ok.mp h]
  | cons id rest ih =>
    unfold reveal at h
    simp only [bind_eq_ok] at h
    obtain ⟨_, -, h⟩ := h
    rw [ih h]
    simp [(hf id).symm]

/-- The marks of an interaction are its flags, what it reveals, its guard and trophies. -/
theorem has_applyMarks (h : a.applyMarks w s i = .ok (t, trophies)) (hf : f.isRoutine = false) :
    t.flags.has f = (i.marked s.flags).has f := by
  obtain ⟨u, hreveal, hmarked⟩ := applyMarks_eq_ok h
  have hrevealed : t.flags.has f = u.flags.has f :=
    has_reveal hreveal fun id => f.ne_of_isRoutine hf (.objectRevealed id)
  rw [hrevealed]
  rcases hmarked with ⟨rfl, -⟩ | ⟨-, haward⟩
  · rfl
  · obtain ⟨-, -, hhas⟩ := awardOnce_eq_some haward
    have hguard := f.ne_of_isRoutine hf (a.verb.scoreGuard a.object.id)
    rw [hhas f fun id => f.ne_of_isRoutine hf (.achievement id), decide_eq_false hguard.symm,
      Bool.false_or]

/-- A flag that an interaction does not name comes through an action unchanged. -/
theorem has_apply (h : a.apply w s = .ok (t, lines)) (hf : f.isRoutine = false)
    (hentry : ∀ i, a.entry = some i → f ∉ i.grants ∧ f ∉ i.removes) :
    t.flags.has f = s.flags.has f := by
  obtain ⟨s₁, s₂, trophies, s₃, s₄, arrival, hstate, hmarks, hmoves, hlit, hscene, -⟩ :=
    apply_eq_ok h
  have hlight := f.ne_of_isRoutine hf .light
  have hmarked : s₂.flags.has f = s₁.flags.has f := by
    unfold leaveMarks at hmarks
    split at hmarks
    · rename_i i hi
      obtain ⟨hgrants, hremoves⟩ := hentry i hi
      rw [liftM_refusal_eq_ok] at hmarks
      rw [has_applyMarks hmarks hf, Interaction.has_marked, decide_eq_false hgrants,
        decide_eq_false hremoves]
      simp
    · rw [(Prod.mk.inj (Except.ok.inj hmarks)).1]
  have hentered : t.flags.has f = s₄.flags.has f := by
    unfold changeScene at hscene
    split at hscene
    · rename_i scene _
      have hvisited := f.ne_of_isRoutine hf (.sceneVisited scene)
      have hhas := has_enterScene w s₄ scene hlight hvisited
      split at hscene
      · rename_i text u hu
        obtain ⟨rfl, -⟩ := Prod.mk.inj (Except.ok.inj hscene)
        rw [hu] at hhas
        exact hhas
      · cases hscene
    · rw [(Prod.mk.inj (Except.ok.inj hscene)).1]
  -- from the last stage to the first
  rw [hentered, has_relit hlit hlight, (sameBesides_moveObjects hmoves).flags, hmarked,
    has_changeState hstate hf]

end Action

/-! ## Commands -/

/-- Going through an exit changes the light, what has been visited and scored, and trophies. -/
theorem has_traverse {e : Exit} {arrival : Arrival} (h : s.traverse w e = (.ok arrival, t))
    (hf : f.isRoutine = false) : t.flags.has f = s.flags.has f := by
  obtain ⟨u, hu, hawarded⟩ := traverse_eq_ok h
  have hentered := has_enterScene w s e.destination (f.ne_of_isRoutine hf .light)
    (f.ne_of_isRoutine hf (.sceneVisited e.destination))
  rw [hu] at hentered
  rcases hawarded with ⟨-, -, rfl⟩ | ⟨-, -, haward⟩
  · exact hentered
  · have hscored := f.ne_of_isRoutine hf (.exitScored e.destination)
    obtain ⟨-, -, hhas⟩ := awardOnce_eq_some haward
    rw [hhas f fun id => f.ne_of_isRoutine hf (.achievement id), decide_eq_false hscored.symm,
      Bool.false_or, hentered]

/-- **A flag that the world is silent about**, and that no rule of the game sets or clears during
a command, comes through every command unchanged. -/
theorem has_of_carriedOut {kind : Flag → Bool} (hsilent : w.Silent kind)
    (hkind : kind f = true) (hf : f.isRoutine = false) {messages : Messages} {command : Command}
    (h : CarriedOut w messages s command t) : t.flags.has f = s.flags.has f := by
  cases h with
  | waited => rfl
  | went _ _ htraverse => exact has_traverse htraverse hf
  | @acted a _ _ _ hplan happly =>
    refine Action.has_apply happly hf fun i hi => ?_
    have hplanned := planned_of_plan hplan
    obtain ⟨noun, -, hlocated⟩ := hplanned.object
    obtain ⟨id, lit, -, ho, -⟩ := locate_eq_object hlocated
    rw [hplanned.entry] at hi
    have hnamed := hsilent.2 id a.object a.verb i ho hi f
    constructor
    · intro hmem
      rw [hnamed (List.mem_append_left _ hmem)] at hkind
      cases hkind
    · intro hmem
      rw [hnamed (List.mem_append_right _ hmem)] at hkind
      cases hkind

end TextAdventure
