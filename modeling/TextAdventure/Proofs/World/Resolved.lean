import Mathlib.Data.List.Nodup
import TextAdventure.Proofs.World.Lookup
import TextAdventure.World.Compile

/-!
# What a resolved world is made of

Resolving turns the lists of an authored world into maps by id. Whatever is found under an id was
written with that id (`object_of_resolved`, `scene_of_resolved`), and whatever is written is found
(`hasObject_of_resolved`, `hasScene_of_resolved`). An object, an interaction or an exit keeps the
ids it was written with.
-/

namespace TextAdventure

open Std

/-! ## Maps from lists -/

theorem getElem?_insertMany {α : Type} {m : ExtTreeMap Id α} {entries : List (Id × α)} {k : Id}
    {v : α} (h : (m.insertMany entries)[k]? = some v) : (k, v) ∈ entries ∨ m[k]? = some v := by
  induction entries generalizing m with
  | nil => exact .inr h
  | cons entry rest ih =>
    obtain ⟨key, value⟩ := entry
    rw [ExtTreeMap.insertMany_cons] at h
    rcases ih h with hrest | hhere
    · exact .inl (List.mem_cons_of_mem _ hrest)
    · rw [ExtTreeMap.getElem?_insert] at hhere
      split at hhere
      · rename_i heq
        obtain rfl := LawfulEqCmp.eq_of_compare heq
        obtain rfl := Option.some.inj hhere
        exact .inl (List.mem_cons_self ..)
      · exact .inr hhere

/-- What is found under an id is in the list under that id. -/
theorem mem_of_getElem?_ofList {α : Type} {entries : List (Id × α)} {k : Id} {v : α}
    (h : (ExtTreeMap.ofList entries)[k]? = some v) : (k, v) ∈ entries := by
  rw [ExtTreeMap.ofList_eq_insertMany_empty] at h
  refine (getElem?_insertMany h).resolve_right fun hempty => ?_
  rw [ExtTreeMap.getElem?_empty] at hempty
  cases hempty

theorem contains_ofList_map {α : Type} {key : α → Id} {values : List α} {v : α}
    (h : v ∈ values) : (ExtTreeMap.ofList (values.map fun v => (key v, v))).contains (key v) := by
  rw [ExtTreeMap.contains_ofList, List.contains_iff_mem, List.map_map]
  exact List.mem_map.mpr ⟨v, h, rfl⟩

/-! ## Parts -/

namespace Compile

variable {a : Authored.World}

/-- An exit keeps its destination. -/
theorem exit_eq_ok {context : String} {e : Authored.Exit} {e' : Exit}
    (h : exit a context e = .ok e') :
    e'.direction = e.direction ∧ e'.destination = e.destination ∧ e'.score = e.score := by
  unfold exit at h
  simp only [bind_eq_ok, pure_eq_ok] at h
  obtain ⟨_, -, rfl⟩ := h
  exact ⟨rfl, rfl, rfl⟩

/-- A scene keeps its id and resolves its exits one by one. -/
theorem scene_eq_ok {s : Authored.Scene} {s' : Scene} (h : scene a s = .ok s') :
    s'.id = s.id ∧ s.exits.mapM (exit a (Authored.sceneContext s.id)) = .ok s'.exits := by
  unfold scene at h
  simp only [bind_eq_ok, pure_eq_ok] at h
  obtain ⟨exits, hexits, _, -, rfl⟩ := h
  exact ⟨rfl, hexits⟩

/-- A scene lists the objects that are written to start in it. -/
theorem objects_of_scene {s : Authored.Scene} {s' : Scene} (h : scene a s = .ok s') :
    s'.objects = (a.objects.filter (·.location == .scene s.id)).map (·.id) := by
  unfold scene at h
  simp only [bind_eq_ok, pure_eq_ok] at h
  obtain ⟨exits, -, _, -, rfl⟩ := h
  rfl

/-- What an interaction needs and does is resolved as it is written. -/
theorem interaction_eq_ok {context : String} {i : Authored.Interaction} {i' : Interaction}
    (h : interaction a context i = .ok i') :
    i'.requiresHeld = i.requiresHeld ∧ i'.reveals = i.reveals ∧ i'.transfers = i.transfers ∧
      i'.targetScene = i.targetScene := by
  unfold interaction at h
  simp only [bind_eq_ok, pure_eq_ok] at h
  obtain ⟨_, -, _, -, rfl⟩ := h
  exact ⟨rfl, rfl, rfl, rfl⟩

/-- Every interaction of an object was written for its verb. -/
theorem interactions_eq_ok {object : Id} {found found' : ExtTreeMap Verb Interaction}
    {written : List Authored.Interaction} (h : interactions a object found written = .ok found')
    {verb : Verb} {i : Interaction} (hi : found'[verb]? = some i) :
    found[verb]? = some i ∨
      ∃ i' ∈ written, Verb.ofText i'.verb = verb ∧
        ∃ context, interaction a context i' = .ok i := by
  induction written generalizing found with
  | nil =>
    obtain rfl := Except.ok.inj h
    exact .inl hi
  | cons first rest ih =>
    unfold interactions at h
    simp only [bind_eq_ok] at h
    obtain ⟨entry, hentry, h⟩ := h
    split at h
    · cases h
    · rcases ih h with hhere | ⟨i', hmem, hverb, hrest⟩
      · rw [ExtTreeMap.getElem?_insert] at hhere
        split at hhere
        · rename_i heq
          obtain rfl := Option.some.inj hhere
          exact .inr ⟨first, List.mem_cons_self .., LawfulEqCmp.eq_of_compare heq, _, hentry⟩
        · exact .inl hhere
      · exact .inr ⟨i', List.mem_cons_of_mem _ hmem, hverb, hrest⟩

/-- An object keeps its id, its start, its weight and what makes it a container or a light
source. -/
theorem object_eq_ok {o : Authored.Object} {o' : Object} (h : object a o = .ok o') :
    o'.id = o.id ∧ o'.start = o.location ∧ o'.weight = o.weight ∧ o'.container = o.container ∧
      o'.lightSource = o.lightSource ∧
      interactions a o.id ∅ o.interactions = .ok o'.interactions := by
  unfold object at h
  simp only [bind_eq_ok, pure_eq_ok] at h
  obtain ⟨found, hfound, _, -, rfl⟩ := h
  exact ⟨rfl, rfl, rfl, rfl, rfl, hfound⟩

end Compile

/-! ## The world -/

namespace World

variable {a : Authored.World} {w : World} {id : Id}

theorem ofAuthored_eq_ok (h : World.ofAuthored a = .ok w) :
    w.startScene = a.game.startScene ∧
      ∃ scenes objects, a.scenes.mapM (Compile.scene a) = .ok scenes ∧
        a.objects.mapM (Compile.object a) = .ok objects ∧
        w.scenes = .ofList (scenes.map fun s => (s.id, s)) ∧
        w.objects = .ofList (objects.map fun o => (o.id, o)) := by
  unfold World.ofAuthored at h
  simp only [bind_eq_ok, pure_eq_ok] at h
  obtain ⟨scenes, hscenes, objects, hobjects, rfl⟩ := h
  exact ⟨rfl, scenes, objects, hscenes, hobjects, rfl, rfl⟩

/-- The initial flags are resolved one by one, and the highest score is that of the resolved
scenes and objects. -/
theorem rules_of_resolved (h : World.ofAuthored a = .ok w) :
    w.initialFlags = a.game.initialFlags.map a.flag ∧
      w.maxScore = highestScore w.scenes w.objects := by
  unfold World.ofAuthored at h
  simp only [bind_eq_ok, pure_eq_ok] at h
  obtain ⟨scenes, -, objects, -, rfl⟩ := h
  exact ⟨rfl, rfl⟩

/-- The trophies are those that are written. -/
theorem achievements_of_resolved (h : World.ofAuthored a = .ok w) :
    w.scoring.achievements = a.game.scoring.achievements := by
  unfold World.ofAuthored at h
  simp only [bind_eq_ok, pure_eq_ok] at h
  obtain ⟨scenes, -, objects, -, rfl⟩ := h
  rfl

/-- A compiled world is resolved from one without faults. -/
theorem compile_eq_ok (h : World.compile a = .ok w) :
    a.faults = [] ∧ World.ofAuthored a = .ok w := by
  unfold compile at h
  split at h
  · rename_i hfaults
    exact ⟨hfaults, mapError_eq_ok.mp h⟩
  · cases h

/-- An object of the world was written with its id. -/
theorem object_of_resolved (h : World.ofAuthored a = .ok w) {o : Object}
    (ho : w.objects[id]? = some o) :
    o.id = id ∧ ∃ written ∈ a.objects, Compile.object a written = .ok o := by
  obtain ⟨-, scenes, objects, -, hobjects, -, hmap⟩ := ofAuthored_eq_ok h
  rw [hmap] at ho
  obtain ⟨o', hmem, heq⟩ := List.mem_map.mp (mem_of_getElem?_ofList ho)
  obtain ⟨rfl, rfl⟩ := Prod.mk.inj heq
  obtain ⟨written, hwritten, hok⟩ := exists_of_mem_values hobjects hmem
  exact ⟨rfl, written, hwritten, hok⟩

/-- A scene of the world was written with its id. -/
theorem scene_of_resolved (h : World.ofAuthored a = .ok w) {sc : Scene}
    (hsc : w.scenes[id]? = some sc) :
    sc.id = id ∧ ∃ written ∈ a.scenes, Compile.scene a written = .ok sc := by
  obtain ⟨-, scenes, objects, hscenes, -, hmap, -⟩ := ofAuthored_eq_ok h
  rw [hmap] at hsc
  obtain ⟨sc', hmem, heq⟩ := List.mem_map.mp (mem_of_getElem?_ofList hsc)
  obtain ⟨rfl, rfl⟩ := Prod.mk.inj heq
  obtain ⟨written, hwritten, hok⟩ := exists_of_mem_values hscenes hmem
  exact ⟨rfl, written, hwritten, hok⟩

/-- Every object that is written is there. -/
theorem hasObject_of_resolved (h : World.ofAuthored a = .ok w) {written : Authored.Object}
    (hmem : written ∈ a.objects) : w.hasObject written.id = true := by
  obtain ⟨-, scenes, objects, -, hobjects, -, hmap⟩ := ofAuthored_eq_ok h
  obtain ⟨o, ho, hok⟩ := exists_of_mem_list hobjects hmem
  unfold hasObject
  rw [hmap, ← (Compile.object_eq_ok hok).1]
  exact contains_ofList_map ho

/-- Every scene that is written is there. -/
theorem hasScene_of_resolved (h : World.ofAuthored a = .ok w) {written : Authored.Scene}
    (hmem : written ∈ a.scenes) : w.hasScene written.id = true := by
  obtain ⟨-, scenes, objects, hscenes, -, hmap, -⟩ := ofAuthored_eq_ok h
  obtain ⟨sc, hsc, hok⟩ := exists_of_mem_list hscenes hmem
  unfold hasScene
  rw [hmap, ← (Compile.scene_eq_ok hok).1]
  exact contains_ofList_map hsc

/-- With distinct ids every object that is written is found under its id. -/
theorem object_of_written (h : World.ofAuthored a = .ok w)
    (hdistinct : (a.objects.map (·.id)).Nodup) {written : Authored.Object}
    (hmem : written ∈ a.objects) :
    ∃ o, w.objects[written.id]? = some o ∧ Compile.object a written = .ok o := by
  obtain ⟨o, ho⟩ := hasObject_iff.mp (hasObject_of_resolved h hmem)
  obtain ⟨hid, written', hmem', hok⟩ := object_of_resolved h ho
  have hsame : written' = written :=
    List.inj_on_of_nodup_map hdistinct hmem' hmem ((Compile.object_eq_ok hok).1.symm.trans hid)
  exact ⟨o, ho, hsame ▸ hok⟩

/-- With distinct ids an object is found under an id exactly when it is the resolved one that is
written with it. -/
theorem getElem?_objects_iff (h : World.ofAuthored a = .ok w)
    (hdistinct : (a.objects.map (·.id)).Nodup) {o : Object} :
    w.objects[id]? = some o ↔
      ∃ written ∈ a.objects, written.id = id ∧ Compile.object a written = .ok o := by
  constructor
  · intro ho
    obtain ⟨hid, written, hmem, hok⟩ := object_of_resolved h ho
    exact ⟨written, hmem, (Compile.object_eq_ok hok).1.symm.trans hid, hok⟩
  · rintro ⟨written, hmem, rfl, hok⟩
    obtain ⟨o', ho', hok'⟩ := object_of_written h hdistinct hmem
    rw [ho', Except.ok.inj (hok'.symm.trans hok)]

/-- With distinct ids every scene that is written is found under its id. -/
theorem scene_of_written (h : World.ofAuthored a = .ok w)
    (hdistinct : (a.scenes.map (·.id)).Nodup) {written : Authored.Scene}
    (hmem : written ∈ a.scenes) :
    ∃ sc, w.scenes[written.id]? = some sc ∧ Compile.scene a written = .ok sc := by
  obtain ⟨sc, hsc⟩ := hasScene_iff.mp (hasScene_of_resolved h hmem)
  obtain ⟨hid, written', hmem', hok⟩ := scene_of_resolved h hsc
  have hsame : written' = written :=
    List.inj_on_of_nodup_map hdistinct hmem' hmem ((Compile.scene_eq_ok hok).1.symm.trans hid)
  exact ⟨sc, hsc, hsame ▸ hok⟩

end World

end TextAdventure
