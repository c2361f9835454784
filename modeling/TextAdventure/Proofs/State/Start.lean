import TextAdventure.Proofs.State.Placed

/-!
# The beginning of a game

Every object of the world is put where it starts, one after the other. A new state holds exactly
that (`holds_new_iff`), so that it is placed (`placed_new`), and well placed when no object starts
inside itself (`wellPlaced_new`). Making one goes through when every start exists (`new_ok`).
-/

namespace TextAdventure

open Std Relation

namespace GameState

variable {w : World} {s t : GameState} {o : Id} {obj : Object} {p : Place}
  {entries : List (Id × Object)}

theorem mem_of_mem_toList (h : (o, obj) ∈ w.objects.toList) : w.objects[o]? = some obj :=
  ExtTreeMap.mem_toList_iff_getElem?_eq_some.mp h

/-! ## One object -/

/-- A container starts open or locked, and a light source on, where it is written so. -/
theorem mem_startFlags_iff {f : Flag} : f ∈ startFlags obj o ↔
    f = .objectOpen o ∧ (∃ c, obj.container = some c ∧ c.isOpen = true) ∨
      f = .objectLocked o ∧ (∃ c, obj.container = some c ∧ c.isLocked = true) ∨
      f = .lightOn o ∧ ∃ l, obj.lightSource = some l ∧ l.on = true := by
  unfold startFlags
  cases obj.container <;> cases obj.lightSource <;>
    simp [List.mem_ite_nil_right, and_comm]

/-- An object starts with flags of its own only. -/
theorem mem_startFlags {f : Flag} (h : f ∈ startFlags obj o) :
    f = .objectOpen o ∨ f = .objectLocked o ∨ f = .lightOn o := by
  rcases mem_startFlags_iff.mp h with ⟨hf, -⟩ | ⟨hf, -⟩ | ⟨hf, -⟩
  · exact .inl hf
  · exact .inr (.inl hf)
  · exact .inr (.inr hf)

theorem placeAtStart_eq_ok :
    placeAtStart w s (o, obj) = .ok t ↔ w.hasObject o = true ∧ w.HasPlace obj.start ∧
      t = { s.added o obj.start with
        flags := (startFlags obj o).foldl .insert (s.added o obj.start).flags } := by
  unfold placeAtStart
  simp only [bind_eq_ok, pure_eq_ok, place_eq_ok_iff]
  constructor
  · rintro ⟨_, ⟨ho, hp, rfl⟩, rfl⟩
    exact ⟨ho, hp, rfl⟩
  · rintro ⟨ho, hp, rfl⟩
    exact ⟨_, ⟨ho, hp, rfl⟩, rfl⟩

/-- What the start of one object does to the holders. -/
theorem sameHolders_placeAtStart (h : placeAtStart w s (o, obj) = .ok t) :
    SameHolders (s.added o obj.start) t := by
  obtain ⟨-, -, rfl⟩ := placeAtStart_eq_ok.mp h
  exact ⟨rfl, rfl, rfl⟩

/-! ## All objects -/

/-- The objects that have been placed are where they start, besides what was there before. -/
theorem holds_foldlM_placeAtStart (h : entries.foldlM (placeAtStart w) s = .ok t) :
    t.Holds p o ↔ s.Holds p o ∨ (p ≠ .nowhere ∧ ∃ obj, (o, obj) ∈ entries ∧ obj.start = p) := by
  -- on the objects still to be placed, from whatever state has been reached
  induction entries generalizing s with
  | nil =>
    obtain rfl := pure_eq_ok.mp h
    simp
  | cons entry rest ih =>
    obtain ⟨id, first⟩ := entry
    rw [List.foldlM_cons, bind_eq_ok] at h
    obtain ⟨u, hu, hrest⟩ := h
    rw [ih hrest, (sameHolders_placeAtStart hu).holds_iff, holds_added]
    constructor
    · rintro ((hs | ⟨hne, rfl, rfl⟩) | ⟨hne, obj, hmem, hstart⟩)
      · exact .inl hs
      · exact .inr ⟨hne, first, List.mem_cons_self .., rfl⟩
      · exact .inr ⟨hne, obj, List.mem_cons_of_mem _ hmem, hstart⟩
    · rintro (hs | ⟨hne, obj, hmem, hstart⟩)
      · exact .inl (.inl hs)
      · rcases List.mem_cons.mp hmem with heq | hmem
        · obtain ⟨rfl, rfl⟩ := Prod.mk.inj heq
          subst hstart
          exact .inl (.inr ⟨hne, rfl, rfl⟩)
        · exact .inr ⟨hne, obj, hmem, hstart⟩

/-- Placing the objects adds no holder that does not exist, and does not move the player. -/
theorem foldlM_placeAtStart_frame (h : entries.foldlM (placeAtStart w) s = .ok t) :
    (∀ c ∈ t.containers, c ∈ s.containers ∨ w.HasPlace (.container c)) ∧
      (∀ c ∈ t.scenes, c ∈ s.scenes ∨ w.HasPlace (.scene c)) ∧
      t.currentScene = s.currentScene := by
  induction entries generalizing s with
  | nil =>
    obtain rfl := pure_eq_ok.mp h
    exact ⟨fun c hc => .inl hc, fun c hc => .inl hc, rfl⟩
  | cons entry rest ih =>
    obtain ⟨id, first⟩ := entry
    rw [List.foldlM_cons, bind_eq_ok] at h
    obtain ⟨u, hu, hrest⟩ := h
    obtain ⟨hcontainers, hscenes, hscene⟩ := ih hrest
    obtain ⟨-, hp, rfl⟩ := placeAtStart_eq_ok.mp hu
    refine ⟨fun c hc => ?_, fun c hc => ?_, hscene.trans sameBesides_added.currentScene⟩
    · rcases hcontainers c hc with hu | hw
      · rcases mem_containers_added.mp hu with hs | hstart
        · exact .inl hs
        · exact .inr (hstart ▸ hp)
      · exact .inr hw
    · rcases hscenes c hc with hu | hw
      · rcases mem_scenes_added.mp hu with hs | hstart
        · exact .inl hs
        · exact .inr (hstart ▸ hp)
      · exact .inr hw

/-- The flags that objects start with hold besides those that held before, every holder is kept,
and nothing is counted. -/
theorem foldlM_placeAtStart_adds (h : entries.foldlM (placeAtStart w) s = .ok t) :
    (∀ f, t.flags.has f = true ↔ s.flags.has f = true ∨
      ∃ o obj, (o, obj) ∈ entries ∧ f ∈ startFlags obj o) ∧
    (∀ c ∈ s.containers, c ∈ t.containers) ∧ (∀ c ∈ s.scenes, c ∈ t.scenes) ∧
    t.score = s.score ∧ t.turnCount = s.turnCount ∧ t.lightUsage = s.lightUsage := by
  induction entries generalizing s with
  | nil =>
    obtain rfl := pure_eq_ok.mp h
    exact ⟨by simp, fun _ => id, fun _ => id, rfl, rfl, rfl⟩
  | cons entry rest ih =>
    obtain ⟨id, first⟩ := entry
    rw [List.foldlM_cons, bind_eq_ok] at h
    obtain ⟨u, hu, hrest⟩ := h
    obtain ⟨hflags, hcontainers, hscenes, hscore, hturns, husage⟩ := ih hrest
    obtain ⟨-, -, rfl⟩ := placeAtStart_eq_ok.mp hu
    have hsame : SameBesides s (s.added id first.start) := sameBesides_added
    refine ⟨fun f => ?_, fun c hc => hcontainers c (mem_containers_added.mpr (.inl hc)),
      fun c hc => hscenes c (mem_scenes_added.mpr (.inl hc)), hscore.trans hsame.score,
      hturns.trans hsame.turnCount, husage.trans hsame.lightUsage⟩
    rw [hflags, FlagSet.has_foldl_insert, Bool.or_eq_true, decide_eq_true_iff, hsame.flags]
    simp only [List.mem_cons, Prod.mk.injEq]
    constructor
    · rintro ((hfirst | hs) | ⟨o, obj, hmem, hf⟩)
      · exact .inr ⟨id, first, .inl ⟨rfl, rfl⟩, hfirst⟩
      · exact .inl hs
      · exact .inr ⟨o, obj, .inr hmem, hf⟩
    · rintro (hs | ⟨o, obj, ⟨rfl, rfl⟩ | hmem, hf⟩)
      · exact .inl (.inr hs)
      · exact .inl (.inl hf)
      · exact .inr ⟨o, obj, hmem, hf⟩

theorem foldlM_placeAtStart_ok
    (h : ∀ o obj, (o, obj) ∈ entries → w.hasObject o = true ∧ w.HasPlace obj.start) :
    ∃ t, entries.foldlM (placeAtStart w) s = .ok t := by
  induction entries generalizing s with
  | nil => exact ⟨s, rfl⟩
  | cons entry rest ih =>
    obtain ⟨id, first⟩ := entry
    obtain ⟨ho, hp⟩ := h id first (List.mem_cons_self ..)
    obtain ⟨t, ht⟩ := ih fun o obj hmem => h o obj (List.mem_cons_of_mem _ hmem)
    refine ⟨t, ?_⟩
    rw [List.foldlM_cons, bind_eq_ok]
    exact ⟨_, placeAtStart_eq_ok.mpr ⟨ho, hp, rfl⟩, ht⟩

/-! ## The empty state -/

theorem not_holds_withHolders {scene : Id} : ¬ (withHolders w scene).Holds p o := by
  have hmap : ∀ {α : Type} (m : ExtTreeMap Id α) (c : Id),
      o ∉ (m.map fun _ _ => (∅ : ExtTreeSet Id)).getD c ∅ := by
    intro α m c
    rw [ExtTreeMap.getD_eq_getD_getElem?, ExtTreeMap.getElem?_map]
    cases m[c]? with
    | none => exact ExtTreeSet.not_mem_empty
    | some _ => exact ExtTreeSet.not_mem_empty
  cases p with
  | nowhere => exact not_holds_nowhere
  | inventory => simp [withHolders, blank]
  | container c =>
    rw [holds_container]
    exact hmap _ c
  | scene c =>
    rw [holds_scene]
    exact hmap _ c

theorem mem_containers_withHolders {scene c : Id} :
    c ∈ (withHolders w scene).containers ↔ w.HasPlace (.container c) := by
  have hmap : c ∈ (withHolders w scene).containers ↔
      c ∈ w.objects.filter fun _ o => o.isContainer := ExtTreeMap.mem_map
  rw [hmap, ExtTreeMap.mem_iff_isSome_getElem?, ExtTreeMap.getElem?_filter',
    Option.isSome_iff_exists]
  simp only [Option.filter_eq_some_iff]
  rfl

theorem mem_scenes_withHolders {scene c : Id} :
    c ∈ (withHolders w scene).scenes ↔ w.HasPlace (.scene c) :=
  ExtTreeMap.mem_map.trans ExtTreeMap.contains_iff_mem.symm

/-- The state in which all holders are empty is well placed. -/
theorem wellPlaced_withHolders {scene : Id} : WellPlaced w (withHolders w scene) where
  single o p q hp := (not_holds_withHolders hp).elim
  known p o hp := (not_holds_withHolders hp).elim
  containers c hc := mem_containers_withHolders.mp hc
  scenes c hc := mem_scenes_withHolders.mp hc
  acyclic o hcycle := by
    cases hcycle with
    | single hin => exact not_holds_withHolders hin
    | tail _ hin => exact not_holds_withHolders hin

/-! ## A new state -/

theorem new_eq_ok : GameState.new w = .ok s ↔
    w.hasScene w.startScene = true ∧
      ∃ t, w.objects.toList.foldlM (placeAtStart w) (withHolders w w.startScene) = .ok t ∧
        s = { t with flags := w.initialFlags.foldl .insert t.flags } := by
  unfold GameState.new
  rw [World.hasScene_iff]
  simp only [bind_eq_ok, discard_eq_ok, World.scene_eq_ok, pure_eq_ok]
  constructor
  · rintro ⟨_, hscene, t, ht, rfl⟩
    exact ⟨hscene, t, ht, rfl⟩
  · rintro ⟨hscene, t, ht, rfl⟩
    exact ⟨⟨⟩, hscene, t, ht, rfl⟩

/-- In a new state every object is where it starts, and nowhere else. -/
theorem holds_new_iff (h : GameState.new w = .ok s) :
    s.Holds p o ↔ p ≠ .nowhere ∧ ∃ obj, w.objects[o]? = some obj ∧ obj.start = p := by
  obtain ⟨-, t, ht, rfl⟩ := new_eq_ok.mp h
  have hsame : SameHolders t { t with flags := w.initialFlags.foldl .insert t.flags } :=
    ⟨rfl, rfl, rfl⟩
  rw [hsame.holds_iff, holds_foldlM_placeAtStart ht]
  simp only [not_holds_withHolders, false_or, ExtTreeMap.mem_toList_iff_getElem?_eq_some]

/-- A new state is placed. -/
theorem placed_new (h : GameState.new w = .ok s) : Placed w s := by
  obtain ⟨-, t, ht, rfl⟩ := new_eq_ok.mp h
  obtain ⟨hcontainers, hscenes, -⟩ := foldlM_placeAtStart_frame ht
  have hempty : WellPlaced w (withHolders w w.startScene) := wellPlaced_withHolders
  constructor
  · -- an object starts in one place only
    intro o p q hp hq
    obtain ⟨-, obj, hobj, hstart⟩ := (holds_new_iff h).mp hp
    obtain ⟨-, obj', hobj', hstart'⟩ := (holds_new_iff h).mp hq
    rw [hobj] at hobj'
    obtain rfl := Option.some.inj hobj'
    rw [← hstart, hstart']
  · intro p o hp
    obtain ⟨-, obj, hobj, -⟩ := (holds_new_iff h).mp hp
    exact World.hasObject_iff.mpr ⟨obj, hobj⟩
  · intro c hc
    exact (hcontainers c hc).elim (hempty.containers c) id
  · intro c hc
    exact (hscenes c hc).elim (hempty.scenes c) id

/-- In a new state every object is where it starts. -/
theorem locationOf_new (h : GameState.new w = .ok s) (hobj : w.objects[o]? = some obj) :
    s.locationOf o = obj.start := by
  by_cases hstart : obj.start = .nowhere
  · rw [hstart, locationOf_eq_nowhere]
    intro p hp
    obtain ⟨hne, obj', hobj', rfl⟩ := (holds_new_iff h).mp hp
    rw [hobj] at hobj'
    exact hne (Option.some.inj hobj' ▸ hstart)
  · exact (placed_new h).single.locationOf_eq
      ((holds_new_iff h).mpr ⟨hstart, obj, hobj, rfl⟩)

/-- A new state has the initial flags and those that objects start with. -/
theorem has_new (h : GameState.new w = .ok s) {f : Flag} : s.flags.has f = true ↔
    f ∈ w.initialFlags ∨ ∃ o obj, w.objects[o]? = some obj ∧ f ∈ startFlags obj o := by
  obtain ⟨-, t, ht, rfl⟩ := new_eq_ok.mp h
  obtain ⟨hflags, -⟩ := foldlM_placeAtStart_adds ht
  have hempty : ¬(withHolders w w.startScene).flags.has f = true := by
    rw [show (withHolders w w.startScene).flags.has f = false from FlagSet.has_empty f]
    exact Bool.false_ne_true
  rw [FlagSet.has_foldl_insert, Bool.or_eq_true, decide_eq_true_iff, hflags, or_iff_right hempty]
  simp only [ExtTreeMap.mem_toList_iff_getElem?_eq_some]

/-- A new state has exactly the holders of the world. -/
theorem mem_holders_new (h : GameState.new w = .ok s) {c : Id} :
    (c ∈ s.containers ↔ w.HasPlace (.container c)) ∧ (c ∈ s.scenes ↔ w.HasPlace (.scene c)) := by
  have hplaced := placed_new h
  obtain ⟨-, t, ht, rfl⟩ := new_eq_ok.mp h
  obtain ⟨-, hcontainers, hscenes, -⟩ := foldlM_placeAtStart_adds ht
  exact ⟨⟨hplaced.containers c, fun hc => hcontainers c (mem_containers_withHolders.mpr hc)⟩,
    hplaced.scenes c, fun hc => hscenes c (mem_scenes_withHolders.mpr hc)⟩

/-- In a new state nothing has been counted. -/
theorem counts_new (h : GameState.new w = .ok s) :
    s.score = 0 ∧ s.turnCount = 0 ∧ s.lightUsage = ∅ := by
  obtain ⟨-, t, ht, rfl⟩ := new_eq_ok.mp h
  exact (foldlM_placeAtStart_adds ht).2.2.2

/-- The player begins in the start scene. -/
theorem currentScene_new (h : GameState.new w = .ok s) : s.currentScene = w.startScene := by
  obtain ⟨-, t, ht, rfl⟩ := new_eq_ok.mp h
  exact (foldlM_placeAtStart_frame ht).2.2

/-- A new state is well placed when no object starts inside itself. -/
theorem wellPlaced_new (h : GameState.new w = .ok s)
    (hacyclic : ∀ o, ¬ TransGen w.StartsInside o o) : WellPlaced w s where
  toPlaced := placed_new h
  acyclic o hcycle := by
    refine hacyclic o (TransGen.mono (fun x c hin => ?_) o o hcycle)
    obtain ⟨-, obj, hobj, hstart⟩ := (holds_new_iff h).mp hin
    exact ⟨obj, hobj, hstart⟩

/-- A game can begin when the start scene and every object's start exist. -/
theorem new_ok (hscene : w.hasScene w.startScene = true)
    (hstart : ∀ (o : Id) (obj : Object), w.objects[o]? = some obj → w.HasPlace obj.start) :
    ∃ s, GameState.new w = .ok s := by
  obtain ⟨t, ht⟩ : ∃ t, w.objects.toList.foldlM (placeAtStart w) (withHolders w w.startScene)
      = .ok t := by
    refine foldlM_placeAtStart_ok fun o obj hmem => ?_
    have hobj := mem_of_mem_toList hmem
    exact ⟨World.hasObject_iff.mpr ⟨obj, hobj⟩, hstart o obj hobj⟩
  exact ⟨_, new_eq_ok.mpr ⟨hscene, t, ht, rfl⟩⟩

end GameState

end TextAdventure
