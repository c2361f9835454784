import TextAdventure.Proofs.Play.Rewards
import TextAdventure.Proofs.RoundTrip

/-!
# What can be stored stays so

The parts of a `Storable` state that are not about places: every holder of the world is there
(`Stocked`), the flags that hold are known (`Informed`), and only light sources have been used
(`Metered`). A new state and a restored one have them, and commands keep them.
-/

namespace TextAdventure

open Std GameState FlagSet

variable {w : World} {s t : GameState}

namespace GameState

/-! ## Holders -/

theorem SameHolders.stocked (h : SameHolders s t) (hs : Stocked w s) : Stocked w t where
  everyContainer c hc := h.containers ▸ hs.everyContainer c hc
  everyScene c hc := h.scenes ▸ hs.everyScene c hc

theorem Stocked.added {o : Id} {p : Place} (hs : Stocked w s) : Stocked w (s.added o p) where
  everyContainer c hc := mem_containers_added.mpr (.inl (hs.everyContainer c hc))
  everyScene c hc := mem_scenes_added.mpr (.inl (hs.everyScene c hc))

theorem Stocked.move {byHand : Bool} {item : Id} {p : Place} (hs : Stocked w s)
    (h : s.move w byHand item p = .ok t) : Stocked w t := by
  obtain ⟨-, -, -, -, -, rfl⟩ := move_eq_ok_iff.mp h
  have hout : Stocked w (s.unplace item) :=
    ⟨fun c hc => mem_containers_unplace.mpr (hs.everyContainer c hc),
      fun c hc => mem_scenes_unplace.mpr (hs.everyScene c hc)⟩
  exact hout.added

end GameState

/-- Moves take no holder away. -/
theorem Moved.stocked {log : List Move} (h : Moved w s log t) (hs : Stocked w s) : Stocked w t :=
  (h.invariant (fun _ _ hsame hs => hsame.stocked hs) (fun _ _ _ _ _ hs hm => hs.move hm) hs).1

namespace GameState

/-! ## The beginning of a game -/

theorem knows_startFlags {o : Object} {id : Id} (hid : w.hasObject id = true) :
    ∀ f ∈ startFlags o id, w.Knows f := by
  intro f hf
  rcases mem_startFlags hf with rfl | rfl | rfl <;> exact hid

/-- In a new state every holder is there, the flags that hold are known, and nothing has been
used. -/
theorem storable_new (hflags : w.Flagwise) (h : GameState.new w = .ok s) :
    Stocked w s ∧ s.Informed w ∧ s.Metered w := by
  refine ⟨⟨fun c hc => (mem_holders_new h).1.mpr hc, fun c hc => (mem_holders_new h).2.mpr hc⟩,
    fun f hf => ?_, fun id hid => ?_⟩
  · rcases (has_new h).mp hf with hinitial | ⟨o, obj, hobj, hstart⟩
    · exact hflags.initial f hinitial
    · exact knows_startFlags (World.hasObject_iff.mpr ⟨obj, hobj⟩) f hstart
  · rw [(counts_new h).2.2] at hid
    exact (ExtTreeMap.not_mem_empty hid).elim

/-! ## Commands -/

variable {policy : BatteryPolicy}

theorem metered_burnObject {events : List LightEvent} {id : Id} {o : Object}
    (ho : w.objects[id]? = some o) (hs : s.Metered w) :
    (burnObject policy (s, events) (id, o)).1.Metered w := by
  unfold burnObject
  simp only
  split
  · rename_i source hsource
    split
    · have husage : (burn policy s id source).1.lightUsage
          = s.lightUsage.insert id (addCapped (s.usageOf id) 1) := by
        unfold burn
        simp only
        split
        · rfl
        · split <;> rfl
      intro x hx
      rw [husage] at hx
      rcases ExtTreeMap.mem_insert.mp hx with heq | hx
      · rw [← LawfulEqCmp.eq_of_compare heq]
        exact ⟨o, ho, by unfold Object.isLightSource; rw [hsource]; rfl⟩
      · exact hs x hx
    · exact hs
  · exact hs

/-- A turn that passes uses light sources only. -/
theorem metered_tick {events : List LightEvent} (hs : s.Metered w)
    (h : s.tick w policy = .ok (t, events)) : t.Metered w := by
  refine tick_invariant (P := fun t => t.Metered w)
    (fun _ _ _ _ ho hs => metered_burnObject ho hs) (fun s t hs hlit => ?_) hs h
  obtain ⟨_, rfl⟩ := onlyFlags_relit hlit
  exact hs

/-- A command leaves the flags known, and uses light sources only. -/
theorem storable_execute (hw : w.Coherent) (hflags : w.Flagwise) (hs : Placed w s)
    (hhere : w.hasScene s.currentScene = true) (settings : Settings) (command : Command)
    (hinformed : s.Informed w) (hmetered : s.Metered w) :
    (s.execute w settings command).2.Informed w ∧ (s.execute w settings command).2.Metered w := by
  rcases execute_cases hs hhere settings command with hsame | ⟨t, events, hcarried, htick⟩
  · rw [hsame]
    exact ⟨hinformed, hmetered⟩
  · constructor
    · obtain ⟨u, v, _, hbefore, hrewards, hafter⟩ := stages_of_carriedOut hw hcarried
      intro f hf
      -- from the end of the turn back to the state before
      rcases (unrewarded_tick htick).known f hf with hf | hf
      · rcases hafter.known f hf with hf | hf
        · rcases hrewards.known hw hflags f hf with hf | hf
          · exact (hbefore.known f hf).elim (hinformed f) id
          · exact hf
        · exact hf
      · exact hf
    · refine metered_tick (fun id hid => hmetered id ?_) htick
      rw [← lightUsage_of_carriedOut hcarried]
      exact hid

end GameState

namespace Snapshot

variable {snap : Snapshot}

/-! ## Restored states -/

/-- Restoring takes no holder away. -/
theorem stocked_restore (h : snap.restore w = .ok s) : Stocked w s := by
  obtain ⟨lit, rfl⟩ := onlyFlags_restore h
  exact ⟨fun c hc => mem_foldl_refill.mpr (.inl (stocked_withHolders.everyContainer c hc)),
    fun c hc => mem_foldl_refill.mpr (.inl (stocked_withHolders.everyScene c hc))⟩

/-- Every flag of a snapshot is checked before it is taken over. -/
theorem informed_restore (h : snap.restore w = .ok s) : s.Informed w := by
  have hsnap : snap.Consistent w := (restore_eq_ok_iff.mp h).1
  obtain ⟨lit, rfl⟩ := onlyFlags_restore h
  intro f hf
  rw [has_assign] at hf
  split at hf
  · rename_i heq
    rw [← heq]
    trivial
  · rcases has_foldl_takeMark.mp hf with hread | ⟨scene, hscene, rfl⟩
    · rcases of_has_foldl_takeFlag hread with hnone | ⟨e, he, rfl⟩
      · cases (FlagSet.has_empty f).symm.trans hnone
      · exact (forall_mem_toList_iff (P := fun text => w.Knows (Flag.ofText text))).mpr
          hsnap.flags e he
    · exact hsnap.visited scene hscene

/-- **What is left of the flags** when a snapshot of a state is restored: what is read from the
texts of those that held, the marks of the scenes that were visited, and the light as it is
found. -/
theorem has_restore_iff {w' : World} (h : (s.snapshot w').restore w = .ok t) {f : Flag}
    (hlight : f ≠ .light) : t.flags.has f = true ↔
      (∃ held, s.flags.has held = true ∧ Flag.ofText held.text = f) ∨
        ∃ scene, f = .sceneVisited scene ∧ s.flags.has f = true := by
  obtain ⟨lit, rfl⟩ := onlyFlags_restore h
  rw [has_assign, if_neg hlight.symm, unpacked, has_foldl_takeMark,
    has_foldl_takeFlag fun e he => (mem_flags_snapshot.mp he).1, has_empty]
  constructor
  · rintro ((hnone | ⟨e, he, rfl⟩) | ⟨scene, hscene, rfl⟩)
    · cases hnone
    · obtain ⟨-, held, hheld, htext⟩ := mem_flags_snapshot.mp he
      exact .inl ⟨held, hheld, by rw [htext]⟩
    · exact .inr ⟨scene, rfl, mem_visitedScenes_iff.mp hscene⟩
  · rintro (⟨held, hheld, rfl⟩ | ⟨scene, rfl, hscene⟩)
    · exact .inl (.inr ⟨_, mem_flags_snapshot.mpr ⟨rfl, held, hheld, rfl⟩, rfl⟩)
    · exact .inr ⟨scene, mem_visitedScenes_iff.mpr hscene, rfl⟩

theorem metered_restore (h : snap.restore w = .ok s) : s.Metered w := by
  have hsnap : snap.Consistent w := (restore_eq_ok_iff.mp h).1
  obtain ⟨lit, rfl⟩ := onlyFlags_restore h
  exact hsnap.lightUsage

end Snapshot

end TextAdventure
