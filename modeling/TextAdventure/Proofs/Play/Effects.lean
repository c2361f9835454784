import TextAdventure.Proofs.Play.Moving
import TextAdventure.Proofs.Play.Seeing

/-!
# What each operation changes

Opening, switching and revealing change flags only (`OnlyFlags`), awards also the score
(`OnlyMarks`), and entering a scene only the scene and flags (`enterScene_eq`, `traverse_eq`). When
a turn passes, flags and the use of the light sources change (`OnlyBurnt`), and there is always an
answer to what has burnt down (`tick_ok`). None of these moves an object.
-/

namespace TextAdventure

open Std

/-- The object that an event is about. -/
def LightEvent.object : LightEvent → Id
  | .lowBattery id _ => id
  | .depleted id => id

namespace GameState

variable {w : World} {s t u : GameState} {id : Id}

/-- The states differ in the flags only. -/
def OnlyFlags (s t : GameState) : Prop := ∃ flags, t = { s with flags }

/-- The states differ in the flags and the score only. -/
def OnlyMarks (s t : GameState) : Prop := ∃ flags score, t = { s with flags, score }

theorem OnlyFlags.rfl : OnlyFlags s s := ⟨s.flags, Eq.refl s⟩

theorem OnlyFlags.trans (h : OnlyFlags s t) (h' : OnlyFlags t u) : OnlyFlags s u := by
  obtain ⟨_, rfl⟩ := h
  obtain ⟨flags, rfl⟩ := h'
  exact ⟨flags, Eq.refl _⟩

theorem OnlyFlags.onlyMarks (h : OnlyFlags s t) : OnlyMarks s t := by
  obtain ⟨flags, rfl⟩ := h
  exact ⟨flags, s.score, Eq.refl _⟩

theorem OnlyMarks.trans (h : OnlyMarks s t) (h' : OnlyMarks t u) : OnlyMarks s u := by
  obtain ⟨_, _, rfl⟩ := h
  obtain ⟨flags, score, rfl⟩ := h'
  exact ⟨flags, score, Eq.refl _⟩

theorem OnlyMarks.sameHolders (h : OnlyMarks s t) : SameHolders s t := by
  obtain ⟨_, _, rfl⟩ := h
  exact ⟨Eq.refl _, Eq.refl _, Eq.refl _⟩

/-! ## Flags -/

theorem onlyFlags_changeLid {reason : String → Option ContainerError} {flags : FlagSet}
    (h : s.changeLid w id reason flags = .ok t) : OnlyFlags s t := by
  unfold changeLid at h
  simp only [bind_eq_ok] at h
  obtain ⟨_, -, name, -, h⟩ := h
  split at h
  · cases h
  · exact ⟨_, (pure_eq_ok.mp h).symm⟩

theorem onlyFlags_relit (h : s.relit w = .ok t) : OnlyFlags s t := by
  obtain ⟨_, -, rfl⟩ := relit_eq_ok_iff.mp h
  exact ⟨_, Eq.refl _⟩

theorem onlyFlags_switchOn (h : s.switchOn w id = .ok t) : OnlyFlags s t := by
  unfold switchOn at h
  simp only [bind_eq_ok] at h
  obtain ⟨o, -, h⟩ := h
  split at h
  · cases h
  · split at h
    · cases h
    · cases h
    · obtain ⟨_, rfl⟩ := onlyFlags_relit (mapError_eq_ok.mp h)
      exact ⟨_, Eq.refl _⟩

theorem onlyFlags_switchOff (h : s.switchOff w id = .ok t) : OnlyFlags s t := by
  unfold switchOff at h
  simp only [bind_eq_ok] at h
  obtain ⟨o, -, h⟩ := h
  split at h
  · cases h
  · split at h
    · obtain ⟨_, rfl⟩ := onlyFlags_relit (mapError_eq_ok.mp h)
      exact ⟨_, Eq.refl _⟩
    · cases h
    · cases h

theorem onlyFlags_grantAchievements {achievements : List Authored.Achievement} :
    OnlyFlags s (s.grantAchievements achievements).1 := by
  induction achievements generalizing s with
  | nil => exact .rfl
  | cons a rest ih =>
    unfold grantAchievements
    split
    · exact OnlyFlags.trans ⟨_, Eq.refl _⟩ ih
    · exact ih

theorem onlyMarks_awardOnce {guardFlag : Flag} {points : Int} {messages : List String}
    (h : s.awardOnce w guardFlag points = some (t, messages)) : OnlyMarks s t := by
  unfold awardOnce at h
  split at h
  · cases h
  · obtain ⟨rfl, -⟩ := Prod.mk.inj (Option.some.inj h)
    exact OnlyMarks.trans ⟨_, _, Eq.refl _⟩ onlyFlags_grantAchievements.onlyMarks

/-! ## Scenes -/

/-- Entering a scene changes the flags and leads into the scene or nowhere, whether it can be
described or not. -/
theorem enterScene_frame (w : World) (s : GameState) (scene : Id) :
    ∃ here flags, (s.enterScene w scene).2 = { s with currentScene := here, flags } ∧
      (w.hasScene s.currentScene = true → w.hasScene here = true) := by
  unfold enterScene
  split
  · exact ⟨_, _, Eq.refl _, id⟩
  · rename_i sc hsc
    have hscene : w.hasScene scene = true :=
      World.hasScene_iff.mpr ⟨sc, World.scene_eq_ok.mp hsc⟩
    simp only
    split
    · exact ⟨scene, _, Eq.refl _, fun _ => hscene⟩
    · rename_i u hu
      obtain ⟨_, rfl⟩ := onlyFlags_relit hu
      split
      · exact ⟨scene, _, Eq.refl _, fun _ => hscene⟩
      · exact ⟨scene, _, Eq.refl _, fun _ => hscene⟩

/-- **Entering a scene** that exists brings the light there up to date, describes the scene, and
only then counts it as visited. -/
theorem enterScene_eq_ok_iff {scene : Id} {text : String} :
    s.enterScene w scene = (.ok text, t) ↔ w.hasScene scene = true ∧ ∃ here view,
      GameState.relit { s with currentScene := scene } w = .ok here ∧
      here.sceneView w scene = .ok view ∧ view.text = text ∧
      t = { here with flags := here.flags.insert (.sceneVisited scene) } := by
  rw [World.hasScene_iff]
  unfold enterScene
  constructor
  · intro h
    split at h
    · cases h
    · rename_i sc hsc
      simp only at h
      split at h
      · cases h
      · rename_i here hhere
        split at h
        · cases h
        · rename_i view hview
          obtain ⟨htext, rfl⟩ := Prod.mk.inj h
          exact ⟨⟨sc, World.scene_eq_ok.mp hsc⟩, here, view, hhere, hview, Except.ok.inj htext, rfl⟩
  · rintro ⟨⟨sc, hsc⟩, here, view, hhere, hview, rfl, rfl⟩
    simp only [World.scene_eq_ok.mpr hsc, hhere, hview]

/-- Entering a scene that exists leaves the player in it. -/
theorem enterScene_eq {scene : Id} {text : String} (h : s.enterScene w scene = (.ok text, t)) :
    w.hasScene scene = true ∧ ∃ flags, t = { s with currentScene := scene, flags } := by
  obtain ⟨hscene, here, view, hhere, -, -, rfl⟩ := enterScene_eq_ok_iff.mp h
  obtain ⟨_, rfl⟩ := onlyFlags_relit hhere
  exact ⟨hscene, _, Eq.refl _⟩

/-- A scene can be entered when all that is held exists and its exits lead to scenes. -/
theorem enterScene_ok_of_held (hs : HeldKnown w s) {scene : Id} {sc : Scene}
    (hsc : w.scenes[scene]? = some sc) (hexits : ∀ e ∈ sc.exits, w.hasScene e.destination = true) :
    ∃ text t, s.enterScene w scene = (.ok text, t) := by
  have hscene : w.hasScene scene = true := World.hasScene_iff.mpr ⟨sc, hsc⟩
  have hsame : s.SameHolders { s with currentScene := scene } := ⟨rfl, rfl, rfl⟩
  obtain ⟨here, hhere⟩ := relit_ok (hsame.heldKnown hs) hscene
  obtain ⟨view, hview⟩ : ∃ view, here.sceneView w scene = .ok view := by
    obtain ⟨flags, rfl⟩ := onlyFlags_relit hhere
    have hlit : s.SameHolders { s with currentScene := scene, flags } := ⟨rfl, rfl, rfl⟩
    exact sceneView_ok (hlit.heldKnown hs) hscene hsc hexits
  exact ⟨_, _, enterScene_eq_ok_iff.mpr ⟨hscene, here, view, hhere, hview, rfl, rfl⟩⟩

theorem mem_of_exitByWords {wanted : String} {exits : List Exit} {e : Exit}
    (h : w.exitByWords wanted exits = .ok (some e)) : e ∈ exits := by
  induction exits with
  | nil => cases pure_eq_ok.mp h
  | cons first rest ih =>
    unfold World.exitByWords at h
    simp only [bind_eq_ok] at h
    obtain ⟨_, -, h⟩ := h
    split at h
    · obtain rfl := Option.some.inj (pure_eq_ok.mp h)
      exact List.mem_cons_self ..
    · exact List.mem_cons_of_mem _ (ih h)

/-- The exit that is found is one of the scene. -/
theorem mem_of_findExit {here : Id} {token : String} {e : Exit}
    (h : w.findExit here token = .ok (some e)) :
    ∃ sc, w.scenes[here]? = some sc ∧ e ∈ sc.exits := by
  unfold World.findExit at h
  simp only [bind_eq_ok, World.scene_eq_ok] at h
  obtain ⟨sc, hsc, h⟩ := h
  refine ⟨sc, hsc, ?_⟩
  split at h
  · cases pure_eq_ok.mp h
  · split at h
    · rename_i e' he'
      obtain rfl := Option.some.inj (pure_eq_ok.mp h)
      exact List.mem_of_find?_eq_some he'
    · split at h
      · cases pure_eq_ok.mp h
      · exact mem_of_exitByWords h

/-- **Going through an exit** enters its target. Points that the exit has are awarded after that,
unless they were awarded before. -/
theorem traverse_eq_ok {e : Exit} {arrival : Arrival} (h : s.traverse w e = (.ok arrival, t)) :
    ∃ u, s.enterScene w e.destination = (.ok arrival.description, u) ∧
      let award := u.awardOnce w (.exitScored e.destination) (min e.score exitPointsLimit : Nat)
      ((e.score = 0 ∨ award = none) ∧ arrival = ⟨arrival.description, 0, []⟩ ∧ t = u ∨
        e.score ≠ 0 ∧ arrival.points = e.score ∧ award = some (t, arrival.achievements)) := by
  unfold GameState.traverse at h
  split at h
  · cases (Prod.mk.inj h).1
  · rename_i text u hu
    split at h
    · rename_i hzero
      cases h
      exact ⟨_, hu, .inl ⟨.inl hzero, rfl, rfl⟩⟩
    · rename_i hpoints
      split at h
      · rename_i hnone
        cases h
        exact ⟨_, hu, .inl ⟨.inr hnone, rfl, rfl⟩⟩
      · rename_i v messages haward
        cases h
        exact ⟨_, hu, .inr ⟨hpoints, rfl, haward⟩⟩

theorem traverse_eq {e : Exit} {arrival : Arrival} (h : s.traverse w e = (.ok arrival, t)) :
    w.hasScene e.destination = true ∧
      ∃ flags score, t = { s with currentScene := e.destination, flags, score } := by
  obtain ⟨u, hu, hawarded⟩ := traverse_eq_ok h
  obtain ⟨hscene, _, rfl⟩ := enterScene_eq hu
  rcases hawarded with ⟨-, -, rfl⟩ | ⟨-, -, haward⟩
  · exact ⟨hscene, _, _, Eq.refl _⟩
  · obtain ⟨_, _, rfl⟩ := onlyMarks_awardOnce haward
    exact ⟨hscene, _, _, Eq.refl _⟩

/-- Going through an exit to a scene that can be described is reported. -/
theorem traverse_ok_of_held (hs : HeldKnown w s) {e : Exit} {sc : Scene}
    (hsc : w.scenes[e.destination]? = some sc)
    (hexits : ∀ e' ∈ sc.exits, w.hasScene e'.destination = true) :
    ∃ arrival t, s.traverse w e = (.ok arrival, t) := by
  obtain ⟨text, u, hu⟩ := enterScene_ok_of_held hs hsc hexits
  unfold GameState.traverse
  rw [hu]
  simp only
  split
  · exact ⟨_, _, rfl⟩
  · split
    · exact ⟨_, _, rfl⟩
    · exact ⟨_, _, rfl⟩

/-! ## Time -/

/-- The states differ in the flags and the use of the light sources only. -/
def OnlyBurnt (s t : GameState) : Prop := ∃ flags lightUsage, t = { s with flags, lightUsage }

theorem OnlyBurnt.trans (h : OnlyBurnt s t) (h' : OnlyBurnt t u) : OnlyBurnt s u := by
  obtain ⟨_, _, rfl⟩ := h
  obtain ⟨flags, usage, rfl⟩ := h'
  exact ⟨flags, usage, Eq.refl _⟩

theorem OnlyFlags.onlyBurnt (h : OnlyFlags s t) : OnlyBurnt s t := by
  obtain ⟨flags, rfl⟩ := h
  exact ⟨flags, _, Eq.refl _⟩

theorem OnlyBurnt.sameHolders (h : OnlyBurnt s t) : SameHolders s t := by
  obtain ⟨_, _, rfl⟩ := h
  exact ⟨Eq.refl _, Eq.refl _, Eq.refl _⟩

variable {policy : BatteryPolicy}

theorem onlyBurnt_burn {source : Authored.LightSource} :
    OnlyBurnt s (burn policy s id source).1 := by
  unfold burn
  simp only
  split
  · exact ⟨_, _, Eq.refl _⟩
  · split <;> exact ⟨_, _, Eq.refl _⟩

theorem object_of_mem_burn {source : Authored.LightSource} {event : LightEvent}
    (h : event ∈ (burn policy s id source).2) : event.object = id := by
  unfold burn at h
  simp only at h
  split at h
  · rw [List.mem_singleton.mp h]
    rfl
  · split at h
    · split at h
      · rw [List.mem_singleton.mp h]
        rfl
      · exact (List.not_mem_nil h).elim
    · exact (List.not_mem_nil h).elim

/-- Letting one object burn changes flags and use only, and reports about that object only. -/
theorem burnObject_frame {events : List LightEvent} {o : Object} :
    OnlyBurnt s (burnObject policy (s, events) (id, o)).1 ∧
      ∀ event ∈ (burnObject policy (s, events) (id, o)).2, event ∈ events ∨ event.object = id := by
  unfold burnObject
  simp only
  split
  · split
    · refine ⟨onlyBurnt_burn, fun event hevent => ?_⟩
      exact (List.mem_append.mp hevent).imp_right object_of_mem_burn
    · exact ⟨⟨_, _, Eq.refl _⟩, fun event hevent => .inl hevent⟩
  · exact ⟨⟨_, _, Eq.refl _⟩, fun event hevent => .inl hevent⟩

theorem foldl_burnObject_frame {events : List LightEvent} {entries : List (Id × Object)} :
    OnlyBurnt s (entries.foldl (burnObject policy) (s, events)).1 ∧
      ∀ event ∈ (entries.foldl (burnObject policy) (s, events)).2,
        event ∈ events ∨ event.object ∈ entries.map (·.1) := by
  induction entries generalizing s events with
  | nil => exact ⟨⟨_, _, Eq.refl _⟩, fun event hevent => .inl hevent⟩
  | cons entry rest ih =>
    obtain ⟨id, o⟩ := entry
    obtain ⟨hfirst, hevents⟩ := @burnObject_frame s id policy events o
    rw [List.foldl_cons]
    obtain ⟨hrest, hlater⟩ := ih
    refine ⟨hfirst.trans hrest, fun event hevent => ?_⟩
    rw [List.map_cons, List.mem_cons]
    rcases hlater event hevent with hevent | hevent
    · exact (hevents event hevent).imp_right .inl
    · exact .inr (.inr hevent)

/-- What burning an object of the world and bringing the light up to date preserve is preserved by
a turn that passes. -/
theorem tick_invariant {P : GameState → Prop} {events : List LightEvent}
    (hburn : ∀ s events id o, w.objects[id]? = some o → P s →
      P (burnObject policy (s, events) (id, o)).1)
    (hlit : ∀ s t, P s → s.relit w = .ok t → P t) (hs : P s)
    (h : s.tick w policy = .ok (t, events)) : P t := by
  have hfold : ∀ (entries : List (Id × Object)) (s : GameState) (events : List LightEvent),
      (∀ e ∈ entries, w.objects[e.1]? = some e.2) → P s →
      P (entries.foldl (burnObject policy) (s, events)).1 := by
    intro entries
    induction entries with
    | nil => exact fun s events _ hs => hs
    | cons entry rest ih =>
      intro s events hentries hs
      rw [List.foldl_cons]
      exact ih _ _ (fun e he => hentries e (List.mem_cons_of_mem _ he))
        (hburn s events _ _ (hentries entry (List.mem_cons_self ..)) hs)
  unfold tick at h
  simp only [bind_eq_ok, pure_eq_ok] at h
  obtain ⟨u, hu, heq⟩ := h
  obtain ⟨rfl, -⟩ := Prod.mk.inj heq
  refine hlit _ _ (hfold w.objects.toList s [] (fun e he => ?_) hs) hu
  exact ExtTreeMap.mem_toList_iff_getElem?_eq_some.mp he

/-- A turn that passes changes flags and use only. -/
theorem onlyBurnt_tick {events : List LightEvent} (h : s.tick w policy = .ok (t, events)) :
    OnlyBurnt s t :=
  tick_invariant (P := OnlyBurnt s) (fun _ _ _ _ _ hs => hs.trans burnObject_frame.1)
    (fun _ _ hs hlit => hs.trans (onlyFlags_relit hlit).onlyBurnt) ⟨_, _, Eq.refl s⟩ h

/-- A turn passes in every placed state; what is reported is about objects of the world. -/
theorem tick_ok (policy : BatteryPolicy) (hs : Placed w s)
    (hhere : w.hasScene s.currentScene = true) :
    ∃ t events, s.tick w policy = .ok (t, events) ∧ OnlyBurnt s t ∧
      ∀ event ∈ events, w.hasObject event.object = true := by
  unfold tick
  obtain ⟨hburnt, hevents⟩ : OnlyBurnt s (w.objects.toList.foldl (burnObject policy) (s, [])).1 ∧
      ∀ event ∈ (w.objects.toList.foldl (burnObject policy) (s, [])).2,
        event ∈ [] ∨ event.object ∈ w.objects.toList.map (·.1) := foldl_burnObject_frame
  generalize w.objects.toList.foldl (burnObject policy) (s, []) = run at hburnt hevents ⊢
  obtain ⟨u, events⟩ := run
  -- burning moves nothing, so there is an answer to whether it is light
  obtain ⟨t, ht⟩ : ∃ t, u.relit w = .ok t := by
    refine relit_ok (hburnt.sameHolders.placed hs).known ?_
    obtain ⟨_, _, rfl⟩ := hburnt
    exact hhere
  refine ⟨t, events, ?_, hburnt.trans (onlyFlags_relit ht).onlyBurnt, fun event hevent => ?_⟩
  · simp only [ht, ok_bind]
    rfl
  · have hmem := (hevents event hevent).resolve_left List.not_mem_nil
    obtain ⟨entry, hentry, hid⟩ := List.mem_map.mp hmem
    rw [← hid]
    exact World.hasObject_iff.mpr ⟨entry.2, ExtTreeMap.mem_toList_iff_getElem?_eq_some.mp hentry⟩

/-- What happens to the light sources can be told. -/
theorem eventLine_ok {messages : Messages} {event : LightEvent}
    (h : w.hasObject event.object = true) : ∃ line, eventLine w messages event = .ok line := by
  unfold eventLine
  cases event with
  | lowBattery id remaining =>
    obtain ⟨name, hname⟩ := World.nameOf_ok h
    simp only
    rw [show w.nameOf id = .ok name from hname]
    exact ⟨_, rfl⟩
  | depleted id =>
    obtain ⟨name, hname⟩ := World.nameOf_ok h
    simp only
    rw [show w.nameOf id = .ok name from hname]
    exact ⟨_, rfl⟩

end GameState

end TextAdventure
