import TextAdventure.Proofs.Play.Acting
import TextAdventure.Proofs.World.Flags

/-!
# What each operation does to the flags

Three kinds of changes make up everything that a command does to the flags.

* **the rules of the game** — lids, locks, lamps and the light: `Switched` says that nothing else
  changes and that what is new is known to the world;
* **awards** — the guard, and trophies (`awardOnce_eq_some`);
* **interactions** — what they grant, remove and reveal (`has_marked`, `reveal_eq_ok`).
-/

namespace TextAdventure

open Std GameState

/-- Flags that the rules of the game set and clear: lids, locks, lamps and the light. -/
def Flag.isPhysical : Flag → Bool
  | .objectOpen _ | .objectLocked _ | .lightOn _ | .lightDead _ | .light => true
  | .objectRevealed _ | .sceneVisited _ | .interactionScored _ _ | .exitScored _
  | .achievement _ | .custom _ => false

variable {w : World} {s t u : GameState} {id : Id}

/-! ## The rules of the game -/

namespace FlagSet

variable {before after later flags : FlagSet} {f : Flag}

/-- Only lids, locks, lamps and the light have changed, and what is new is known. -/
structure Switched (w : World) (before after : FlagSet) : Prop where
  others : ∀ f, f.isPhysical = false → after.has f = before.has f
  known : ∀ f, after.has f = true → before.has f = true ∨ w.Knows f

theorem Switched.rfl : Switched w flags flags := ⟨fun _ _ => Eq.refl _, fun _ hf => .inl hf⟩

theorem Switched.trans (h : Switched w before after) (h' : Switched w after later) :
    Switched w before later where
  others f hf := (h'.others f hf).trans (h.others f hf)
  known f hf := (h'.known f hf).elim (h.known f) .inr

theorem switched_insert (hf : f.isPhysical = true) (hknown : w.Knows f) :
    Switched w flags (flags.insert f) where
  others g hg := by
    have hne : f ≠ g := by
      rintro rfl
      rw [hf] at hg
      cases hg
    simp [hne]
  known g hg := by
    rw [has_insert, Bool.or_eq_true, decide_eq_true_iff] at hg
    rcases hg with rfl | hg
    · exact .inr hknown
    · exact .inl hg

theorem switched_erase (hf : f.isPhysical = true) : Switched w flags (flags.erase f) where
  others g hg := by
    have hne : f ≠ g := by
      rintro rfl
      rw [hf] at hg
      cases hg
    simp [hne]
  known g hg := by
    rw [has_erase, Bool.and_eq_true] at hg
    exact .inl hg.2

theorem switched_light (lit : Bool) : Switched w flags (flags.assign .light lit) := by
  unfold assign
  split
  · exact switched_insert rfl trivial
  · exact switched_erase rfl

end FlagSet

open FlagSet

namespace GameState

theorem switched_relit (h : s.relit w = .ok t) : Switched w s.flags t.flags := by
  obtain ⟨lit, -, rfl⟩ := relit_eq_ok_iff.mp h
  exact switched_light lit

/-- A container whose lid changes exists, and gets the flags that it is given. -/
theorem changeLid_eq_ok {reason : String → Option ContainerError} {flags : FlagSet}
    (h : s.changeLid w id reason flags = .ok t) : w.hasObject id = true ∧ t.flags = flags := by
  unfold changeLid at h
  simp only [bind_eq_ok, discard_eq_ok, World.containerSpec_eq_ok] at h
  obtain ⟨_, ⟨_, o, ho, -⟩, name, -, h⟩ := h
  refine ⟨World.hasObject_iff.mpr ⟨o, ho⟩, ?_⟩
  split at h
  · cases h
  · rw [← pure_eq_ok.mp h]

theorem switched_switchOn (h : s.switchOn w id = .ok t) : Switched w s.flags t.flags := by
  unfold switchOn at h
  simp only [liftM_lightError, bind_eq_ok, mapError_eq_ok, World.object_eq_ok] at h
  obtain ⟨o, ho, h⟩ := h
  split at h
  · cases h
  · split at h
    · cases h
    · cases h
    · have hknown : w.Knows (.lightOn id) := World.hasObject_iff.mpr ⟨o, ho⟩
      exact (switched_insert rfl hknown).trans (switched_relit (mapError_eq_ok.mp h))

theorem switched_switchOff (h : s.switchOff w id = .ok t) : Switched w s.flags t.flags := by
  unfold switchOff at h
  simp only [bind_eq_ok] at h
  obtain ⟨o, -, h⟩ := h
  split at h
  · cases h
  · split at h
    · exact (switched_erase rfl).trans (switched_relit (mapError_eq_ok.mp h))
    · cases h
    · cases h

/-- A scene that is entered may count as visited, if it exists; besides that only the light
changes, whether the scene can be described or not. -/
theorem enterScene_flags (w : World) (s : GameState) (scene : Id) :
    ∃ flags, Switched w s.flags flags ∧ ((s.enterScene w scene).2.flags = flags ∨
      w.hasScene scene = true ∧
        (s.enterScene w scene).2.flags = flags.insert (.sceneVisited scene)) := by
  unfold enterScene
  split
  · exact ⟨s.flags, .rfl, .inl rfl⟩
  · rename_i sc hsc
    simp only
    split
    · exact ⟨s.flags, .rfl, .inl rfl⟩
    · rename_i u hu
      have hswitched := switched_relit (s := { s with currentScene := scene }) hu
      split
      · exact ⟨u.flags, hswitched, .inl rfl⟩
      · have hscene := World.hasScene_iff.mpr ⟨sc, World.scene_eq_ok.mp hsc⟩
        exact ⟨u.flags, hswitched, .inr ⟨hscene, rfl⟩⟩

variable {policy : BatteryPolicy} {source : Authored.LightSource}

theorem switched_burn (hid : w.hasObject id = true) :
    Switched w s.flags (burn policy s id source).1.flags := by
  unfold burn
  simp only
  split
  · exact (switched_erase rfl).trans (switched_insert rfl hid)
  · split <;> exact .rfl

theorem switched_burnObject {events : List LightEvent} {o : Object} (hid : w.hasObject id = true) :
    Switched w s.flags (burnObject policy (s, events) (id, o)).1.flags := by
  unfold burnObject
  simp only
  split
  · split
    · exact switched_burn hid
    · exact .rfl
  · exact .rfl

/-- A turn that passes changes lamps and the light only. -/
theorem switched_tick {events : List LightEvent} (h : s.tick w policy = .ok (t, events)) :
    Switched w s.flags t.flags :=
  tick_invariant (P := fun t => Switched w s.flags t.flags)
    (fun _ _ _ o ho hs => hs.trans (switched_burnObject (World.hasObject_iff.mpr ⟨o, ho⟩)))
    (fun _ _ hs hlit => hs.trans (switched_relit hlit)) .rfl h

/-! ## Awards -/

/-- Of a list of trophies those are granted whose threshold is reached. -/
theorem has_grantAchievements {achievements : List Authored.Achievement} {f : Flag} :
    (s.grantAchievements achievements).1.flags.has f = true ↔ s.flags.has f = true ∨
      ∃ a ∈ achievements, f = .achievement a.id ∧ a.threshold ≤ s.score := by
  induction achievements generalizing s with
  | nil => simp [grantAchievements]
  | cons a rest ih =>
    unfold grantAchievements
    rw [List.exists_mem_cons_iff]
    split
    · rename_i hnew
      rw [Bool.and_eq_true, decide_eq_true_iff] at hnew
      refine ih.trans ?_
      rw [has_insert, Bool.or_eq_true, decide_eq_true_iff, eq_comm, or_comm (a := f = _), or_assoc,
        and_iff_left hnew.1]
    · rename_i hnot
      -- the first trophy is out of reach, or held already
      have hfirst : f = .achievement a.id ∧ a.threshold ≤ s.score → s.flags.has f = true := by
        rintro ⟨rfl, hreached⟩
        simpa [hreached] using hnot
      rw [ih, ← or_assoc, or_iff_left_of_imp hfirst]

theorem score_grantAchievements (s : GameState) (achievements : List Authored.Achievement) :
    (s.grantAchievements achievements).1.score = s.score := by
  have honly : OnlyFlags s (s.grantAchievements achievements).1 := onlyFlags_grantAchievements
  obtain ⟨_, heq⟩ := honly
  rw [heq]

theorem awardOnce_eq_none {guardFlag : Flag} {points : Int} :
    s.awardOnce w guardFlag points = none ↔ s.flags.has guardFlag = true := by
  unfold awardOnce
  split <;> simp [*]

/-- An award is made when its guard does not hold. The guard holds from then on, the score is
adjusted, and the trophies whose threshold it reaches are granted. -/
theorem has_awardOnce {guardFlag : Flag} {points : Int} {messages : List String}
    (h : s.awardOnce w guardFlag points = some (t, messages)) :
    s.flags.has guardFlag = false ∧ t.score = adjust s.score points ∧
      ∀ f, t.flags.has f = true ↔ s.flags.has f = true ∨ f = guardFlag ∨
        ∃ a ∈ w.scoring.achievements, f = .achievement a.id ∧ a.threshold ≤ t.score := by
  unfold awardOnce at h
  split at h
  · cases h
  · rename_i hguard
    unfold addScore at h
    obtain ⟨ht, -⟩ := Prod.mk.inj (Option.some.inj h)
    have hscore : t.score = adjust s.score points := by
      rw [← ht]
      exact score_grantAchievements _ _
    refine ⟨Bool.eq_false_iff.mpr hguard, hscore, fun f => ?_⟩
    rw [hscore, ← ht]
    refine has_grantAchievements.trans ?_
    rw [has_insert, Bool.or_eq_true, decide_eq_true_iff, eq_comm, or_comm (a := f = _), or_assoc]

/-- Apart from trophies, an award changes its guard only. -/
theorem awardOnce_eq_some {guardFlag : Flag} {points : Int} {messages : List String}
    (h : s.awardOnce w guardFlag points = some (t, messages)) :
    s.flags.has guardFlag = false ∧ t.score = adjust s.score points ∧
      ∀ f, (∀ id, f ≠ .achievement id) →
        t.flags.has f = (guardFlag = f || s.flags.has f) := by
  obtain ⟨hguard, hscore, hhas⟩ := has_awardOnce h
  refine ⟨hguard, hscore, fun f hf => ?_⟩
  have hnone : ¬∃ a ∈ w.scoring.achievements, f = .achievement a.id ∧ a.threshold ≤ t.score :=
    fun ⟨a, _, heq, _⟩ => hf a.id heq
  rw [Bool.eq_iff_iff, hhas, or_iff_left hnone, Bool.or_eq_true, decide_eq_true_iff, or_comm,
    eq_comm]

/-- An award whose guard is known makes known flags hold only. -/
theorem known_awardOnce {guardFlag : Flag} {points : Int} {messages : List String}
    (h : s.awardOnce w guardFlag points = some (t, messages)) (hguard : w.Knows guardFlag) :
    ∀ f, t.flags.has f = true → s.flags.has f = true ∨ w.Knows f := by
  obtain ⟨-, -, hhas⟩ := has_awardOnce h
  intro f hf
  rcases (hhas f).mp hf with hf | rfl | ⟨a, -, rfl, -⟩
  · exact .inl hf
  · exact .inr hguard
  · exact .inr trivial

end GameState

/-! ## Interactions -/

/-- The flags after an interaction has granted and removed its own. -/
def Interaction.marked (i : Interaction) (flags : FlagSet) : FlagSet :=
  i.removes.foldl .erase (i.grants.foldl .insert flags)

/-- What is granted holds unless it is removed as well. -/
theorem Interaction.has_marked {i : Interaction} {flags : FlagSet} {f : Flag} :
    (i.marked flags).has f =
      (!decide (f ∈ i.removes) && (decide (f ∈ i.grants) || flags.has f)) := by
  unfold marked
  rw [has_foldl_erase, has_foldl_insert]

namespace Action

variable {a : Action} {i : Interaction} {trophies lines : List String}

theorem switched_builtinState (h : a.builtinState w s = .ok t) : Switched w s.flags t.flags := by
  unfold builtinState at h
  split at h
  · obtain ⟨hid, hflags⟩ := changeLid_eq_ok (mapError_eq_ok.mp h)
    rw [hflags]
    exact switched_insert rfl hid
  · obtain ⟨-, hflags⟩ := changeLid_eq_ok (mapError_eq_ok.mp h)
    rw [hflags]
    exact switched_erase rfl
  · obtain ⟨hid, hflags⟩ := changeLid_eq_ok (mapError_eq_ok.mp h)
    rw [hflags]
    exact switched_insert rfl hid
  · obtain ⟨-, hflags⟩ := changeLid_eq_ok (mapError_eq_ok.mp h)
    rw [hflags]
    exact switched_erase rfl
  · exact switched_switchOn (mapError_eq_ok.mp h)
  · exact switched_switchOff (mapError_eq_ok.mp h)
  · rw [← Except.ok.inj h]
    exact .rfl

theorem switched_changeState (h : a.changeState w s = .ok t) : Switched w s.flags t.flags := by
  unfold changeState at h
  split at h
  · exact switched_builtinState h
  · rw [← Except.ok.inj h]
    exact .rfl

/-- Revealing sets the flags of the objects, which exist, and changes nothing else. -/
theorem reveal_eq_ok {ids : List Id} (h : reveal w s ids = .ok t) :
    t.score = s.score ∧ (∀ f, s.flags.has f = true → t.flags.has f = true) ∧
      ∀ f, t.flags.has f = true → s.flags.has f = true ∨ w.Knows f := by
  induction ids generalizing s with
  | nil =>
    obtain rfl := pure_eq_ok.mp h
    exact ⟨rfl, fun _ hf => hf, fun _ hf => .inl hf⟩
  | cons id rest ih =>
    unfold reveal at h
    simp only [bind_eq_ok, discard_eq_ok, World.object_eq_ok] at h
    obtain ⟨_, ⟨o, ho⟩, h⟩ := h
    obtain ⟨hscore, hkept, hnew⟩ := ih h
    refine ⟨hscore, fun f hf => hkept f ?_, fun f hf => ?_⟩
    · simp [hf]
    · rcases hnew f hf with hf | hf
      · rw [has_insert, Bool.or_eq_true, decide_eq_true_iff] at hf
        rcases hf with rfl | hf
        · exact .inr (World.hasObject_iff.mpr ⟨o, ho⟩)
        · exact .inl hf
      · exact .inr hf

/-- The stages of an interaction's marks: its flags, its award unless that was made before, and
what it reveals. Only the award announces trophies. -/
theorem applyMarks_eq_ok (h : a.applyMarks w s i = .ok (t, trophies)) :
    ∃ u, reveal w u i.reveals = .ok t ∧
      (u = { s with flags := i.marked s.flags } ∧ trophies = [] ∨
        i.score ≠ 0 ∧ GameState.awardOnce { s with flags := i.marked s.flags } w
          (a.verb.scoreGuard a.object.id) i.score = some (u, trophies)) := by
  unfold applyMarks at h
  simp only [bind_eq_ok, pure_eq_ok] at h
  obtain ⟨u, hreveal, heq⟩ := h
  obtain ⟨rfl, rfl⟩ := Prod.mk.inj heq
  refine ⟨_, hreveal, ?_⟩
  have hmarked : i.removes.foldl .erase (i.grants.foldl .insert s.flags) = i.marked s.flags := rfl
  rw [hmarked]
  by_cases hscore : i.score = 0
  · rw [if_pos hscore]
    exact .inl ⟨rfl, rfl⟩
  · rw [if_neg hscore]
    cases GameState.awardOnce { s with flags := i.marked s.flags } w
        (a.verb.scoreGuard a.object.id) i.score with
    | none => exact .inl ⟨rfl, rfl⟩
    | some award => exact .inr ⟨hscore, rfl⟩

end Action

end TextAdventure
