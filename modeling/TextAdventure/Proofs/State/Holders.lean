import Mathlib.Data.List.Nodup
import Mathlib.Data.List.Pairwise
import TextAdventure.Proofs.World.Lookup

/-!
# Holders

The inventory, the containers and the scenes as one relation: `Holds s p o` says that the place
`p` directly lists the object `o`.

* **reading** — `locationOf` finds a place that holds the object, and finds none only when there
  is none (`holds_locationOf`, `locationOf_eq_nowhere`);
* **writing** — `place` goes through exactly for known ids, and then adds one pair
  (`place_eq_ok_iff`, `holds_added`); `unplace` takes away every pair of the object when it has
  one holder (`holds_unplace`), and putting the object back undoes it (`added_unplace`);
* **one holder** — `checkSinglePlacement` passes exactly when no object has two
  (`checkSinglePlacement_eq_ok_iff`).
-/

namespace TextAdventure

open Std

namespace GameState

variable {s t : GameState} {w : World} {o x : Id} {p q : Place}

/-- The place directly lists the object. -/
def Holds (s : GameState) (p : Place) (o : Id) : Prop := o ∈ s.contentsAt p

@[simp] theorem holds_inventory : s.Holds .inventory o ↔ o ∈ s.inventory := by
  simp [Holds, contentsAt, ExtTreeSet.mem_toList]

@[simp] theorem holds_container {c : Id} :
    s.Holds (.container c) o ↔ o ∈ s.containers.getD c ∅ := by
  simp [Holds, contentsAt, contentsOf, ExtTreeSet.mem_toList]

@[simp] theorem holds_scene {c : Id} : s.Holds (.scene c) o ↔ o ∈ s.scenes.getD c ∅ := by
  simp [Holds, contentsAt, sceneContents, ExtTreeSet.mem_toList]

@[simp] theorem not_holds_nowhere : ¬ s.Holds .nowhere o := by
  simp [Holds, contentsAt]

/-- No object is listed by two places. -/
def OneHolder (s : GameState) : Prop := ∀ o p q, s.Holds p o → s.Holds q o → p = q

/-! ## Reading -/

section Reading

variable {m : ExtTreeMap Id (ExtTreeSet Id)} {c : Id} {items : ExtTreeSet Id}

theorem mem_of_mem_getD (h : o ∈ m.getD c ∅) : c ∈ m := by
  by_contra hc
  rw [ExtTreeMap.getD_eq_fallback hc] at h
  exact ExtTreeSet.not_mem_empty h

theorem mem_toList_of_mem (h : c ∈ m) : (c, m.getD c ∅) ∈ m.toList := by
  rw [ExtTreeMap.mem_toList_iff_getElem?_eq_some, ExtTreeMap.getD_eq_getD_getElem?]
  obtain ⟨items, hitems⟩ := Option.isSome_iff_exists.mp (ExtTreeMap.mem_iff_isSome_getElem?.mp h)
  rw [hitems]
  rfl

theorem getD_of_mem_toList (h : (c, items) ∈ m.toList) : m.getD c ∅ = items := by
  rw [ExtTreeMap.getD_eq_getD_getElem?, ExtTreeMap.mem_toList_iff_getElem?_eq_some.mp h]
  rfl

/-- The holder that is found lists the object. -/
theorem mem_of_holderIn (h : holderIn m o = some c) : o ∈ m.getD c ∅ := by
  obtain ⟨⟨c', items⟩, hfind, rfl⟩ := Option.map_eq_some_iff.mp h
  have hlists : items.contains o = true := by simpa using List.find?_some hfind
  rw [getD_of_mem_toList (List.mem_of_find?_eq_some hfind)]
  exact ExtTreeSet.contains_iff_mem.mp hlists

/-- No holder is found only when none lists the object. -/
theorem not_mem_of_holderIn (h : holderIn m o = none) (c : Id) : o ∉ m.getD c ∅ := by
  intro hmem
  have hnone := List.find?_eq_none.mp (Option.map_eq_none_iff.mp h) _
    (mem_toList_of_mem (mem_of_mem_getD hmem))
  exact hnone (ExtTreeSet.contains_iff_mem.mpr hmem)

end Reading

/-- The place that is found holds the object. -/
theorem holds_locationOf (h : s.locationOf o ≠ .nowhere) : s.Holds (s.locationOf o) o := by
  unfold locationOf at h ⊢
  split at h
  · rename_i hc
    rw [if_pos hc]
    exact holds_inventory.mpr (ExtTreeSet.contains_iff_mem.mp hc)
  · rename_i hc
    rw [if_neg hc]
    cases hcont : holderIn s.containers o with
    | some c => exact holds_container.mpr (mem_of_holderIn hcont)
    | none =>
      cases hscene : holderIn s.scenes o with
      | some c => exact holds_scene.mpr (mem_of_holderIn hscene)
      | none => simp [hcont, hscene] at h

/-- No place is found only when none holds the object. -/
theorem locationOf_eq_nowhere : s.locationOf o = .nowhere ↔ ∀ p, ¬ s.Holds p o := by
  constructor
  · intro h p hp
    -- all three kinds of holders have been searched
    unfold locationOf at h
    split at h
    · simp at h
    · rename_i hc
      cases hcont : holderIn s.containers o with
      | some c => simp [hcont] at h
      | none =>
        cases hscene : holderIn s.scenes o with
        | some c => simp [hcont, hscene] at h
        | none =>
          cases p with
          | inventory => exact hc (ExtTreeSet.contains_iff_mem.mpr (holds_inventory.mp hp))
          | container c => exact not_mem_of_holderIn hcont c (holds_container.mp hp)
          | scene c => exact not_mem_of_holderIn hscene c (holds_scene.mp hp)
          | nowhere => exact not_holds_nowhere hp
  · intro h
    by_contra hne
    exact h _ (holds_locationOf hne)

/-- With one holder at most, the place that holds an object is the one that is found. -/
theorem OneHolder.locationOf_eq (hs : s.OneHolder) (h : s.Holds p o) : s.locationOf o = p := by
  have hne : s.locationOf o ≠ .nowhere := fun hnone => locationOf_eq_nowhere.mp hnone p h
  exact hs o _ _ (holds_locationOf hne) h

/-! ## Writing -/

/-- The state in which a place lists one object more. -/
def added (s : GameState) (o : Id) : Place → GameState
  | .inventory => { s with inventory := s.inventory.insert o }
  | .container c =>
    { s with containers := s.containers.insert c ((s.containers.getD c ∅).insert o) }
  | .scene c => { s with scenes := s.scenes.insert c ((s.scenes.getD c ∅).insert o) }
  | .nowhere => s

theorem place_eq_ok_iff :
    s.place w o p = .ok t ↔ w.hasObject o = true ∧ w.HasPlace p ∧ t = s.added o p := by
  rw [World.hasObject_iff]
  cases p with
  | inventory => simp [place, World.HasPlace, added, eq_comm (a := t)]
  | nowhere => simp [place, World.HasPlace, added, eq_comm (a := t)]
  | scene c =>
    simp only [place, World.HasPlace, World.hasScene_iff, added, bind_eq_ok, discard_eq_ok,
      World.object_eq_ok, World.scene_eq_ok, pure_eq_ok, exists_and_left, exists_const]
    constructor
    · rintro ⟨ho, hc, rfl⟩
      exact ⟨ho, hc, rfl⟩
    · rintro ⟨ho, hc, rfl⟩
      exact ⟨ho, hc, rfl⟩
  | container c =>
    simp only [place, World.HasPlace, added, bind_eq_ok, discard_eq_ok, World.object_eq_ok,
      ite_eq_ok, pure_eq_ok, throw_eq_error]
    constructor
    · rintro ⟨_, ho, h, hc, ⟨hcont, rfl⟩ | ⟨_, h⟩⟩
      · exact ⟨ho, ⟨h, hc, hcont⟩, rfl⟩
      · cases h
    · rintro ⟨ho, ⟨h, hc, hcont⟩, rfl⟩
      exact ⟨(), ho, h, hc, .inl ⟨hcont, rfl⟩⟩

/-- One pair is added. -/
theorem holds_added : (s.added o p).Holds q x ↔ s.Holds q x ∨ (p ≠ .nowhere ∧ q = p ∧ x = o) := by
  cases p with
  | nowhere => simp [added]
  | inventory =>
    cases q <;> simp [added, or_comm, eq_comm (a := o)]
  | container c =>
    cases q with
    | container d =>
      -- only the entry of the container itself is another one afterwards
      by_cases h : c = d
      · subst h
        simp [added, or_comm, eq_comm (a := o)]
      · have h' : ¬ d = c := fun e => h e.symm
        simp [added, ExtTreeMap.getD_insert, h, h']
    | _ => simp [added]
  | scene c =>
    cases q with
    | scene d =>
      by_cases h : c = d
      · subst h
        simp [added, or_comm, eq_comm (a := o)]
      · have h' : ¬ d = c := fun e => h e.symm
        simp [added, ExtTreeMap.getD_insert, h, h']
    | _ => simp [added]

theorem getD_modify_erase {m : ExtTreeMap Id (ExtTreeSet Id)} {c d : Id} :
    x ∈ (m.modify c (·.erase o)).getD d ∅ ↔ x ∈ m.getD d ∅ ∧ (c = d → x ≠ o) := by
  rw [ExtTreeMap.getD_modify]
  by_cases h : c = d
  · subst h
    rw [ExtTreeMap.getD_eq_getD_getElem?]
    cases hm : m[c]? with
    | none => simp
    | some items => simp [and_comm, eq_comm (a := o)]
  · simp [h]

/-- The pair of the object and its holder is taken away. -/
theorem holds_unplace_iff :
    (s.unplace o).Holds q x ↔ s.Holds q x ∧ (s.locationOf o = q → x ≠ o) := by
  unfold unplace
  cases hloc : s.locationOf o with
  | nowhere =>
    cases q <;> simp
  | inventory =>
    cases q <;> simp [and_comm, eq_comm (a := o)]
  | container c =>
    cases q <;> simp [getD_modify_erase]
  | scene c =>
    cases q <;> simp [getD_modify_erase]

/-- With one holder at most, nothing holds an object that has been taken out. -/
theorem holds_unplace (hs : s.OneHolder) : (s.unplace o).Holds q x ↔ s.Holds q x ∧ x ≠ o := by
  rw [holds_unplace_iff]
  constructor
  · rintro ⟨hx, hne⟩
    refine ⟨hx, ?_⟩
    rintro rfl
    exact hne (hs.locationOf_eq hx) rfl
  · rintro ⟨hx, hne⟩
    exact ⟨hx, fun _ => hne⟩

theorem mem_containers_added {c : Id} :
    c ∈ (s.added o p).containers ↔ c ∈ s.containers ∨ p = .container c := by
  cases p <;> simp [added, or_comm]

theorem mem_scenes_added {c : Id} :
    c ∈ (s.added o p).scenes ↔ c ∈ s.scenes ∨ p = .scene c := by
  cases p <;> simp [added, or_comm]

@[simp] theorem mem_containers_unplace {c : Id} :
    c ∈ (s.unplace o).containers ↔ c ∈ s.containers := by
  unfold unplace
  cases s.locationOf o <;> simp [ExtTreeMap.mem_modify]

@[simp] theorem mem_scenes_unplace {c : Id} : c ∈ (s.unplace o).scenes ↔ c ∈ s.scenes := by
  unfold unplace
  cases s.locationOf o <;> simp [ExtTreeMap.mem_modify]

theorem insert_erase {items : ExtTreeSet Id} (h : o ∈ items) :
    (items.erase o).insert o = items := by
  refine ExtTreeSet.ext_mem fun x => ?_
  simp only [ExtTreeSet.mem_insert, ExtTreeSet.mem_erase, LawfulEqCmp.compare_eq_iff_eq]
  by_cases hx : o = x
  · simp [← hx, h]
  · simp [hx]

/-- An entry from which an object has been taken is as before when the object is put back. -/
theorem insert_modify_erase {m : ExtTreeMap Id (ExtTreeSet Id)} {c : Id}
    (h : o ∈ m.getD c ∅) :
    (m.modify c (·.erase o)).insert c (((m.modify c (·.erase o)).getD c ∅).insert o) = m := by
  refine ExtTreeMap.ext_getElem? fun d => ?_
  rw [ExtTreeMap.getElem?_insert, ExtTreeMap.getElem?_modify]
  by_cases hd : c = d
  · subst hd
    rw [ExtTreeMap.getD_eq_getD_getElem?] at h
    rw [ExtTreeMap.getD_modify]
    cases hm : m[c]? with
    | none =>
      rw [hm] at h
      exact (ExtTreeSet.not_mem_empty h).elim
    | some items =>
      rw [hm] at h
      simpa using insert_erase h
  · simp [hd]

/-- Putting an object back where it was gives the state back. -/
theorem added_unplace : (s.unplace o).added o (s.locationOf o) = s := by
  have hheld : s.locationOf o ≠ .nowhere → s.Holds (s.locationOf o) o := holds_locationOf
  unfold unplace
  cases hloc : s.locationOf o with
  | nowhere => rfl
  | inventory =>
    rw [hloc] at hheld
    have hmem := holds_inventory.mp (hheld Place.noConfusion)
    simp only [added, insert_erase hmem]
  | container c =>
    rw [hloc] at hheld
    have hmem := holds_container.mp (hheld Place.noConfusion)
    simp only [added, insert_modify_erase hmem]
  | scene c =>
    rw [hloc] at hheld
    have hmem := holds_scene.mp (hheld Place.noConfusion)
    simp only [added, insert_modify_erase hmem]

/-! ## One holder -/

theorem nodup_toList (items : ExtTreeSet Id) : items.toList.Nodup := by
  refine items.distinct_toList.imp ?_
  rintro a b hab rfl
  exact hab ReflCmp.compare_self

/-- The lists of all holders together have no duplicates when no object is listed under two keys. -/
theorem nodup_flatMap_toList_iff {m : ExtTreeMap Id (ExtTreeSet Id)} :
    (m.toList.flatMap (·.2.toList)).Nodup ↔
      ∀ o c d, o ∈ m.getD c ∅ → o ∈ m.getD d ∅ → c = d := by
  have hkeys : m.toList.Nodup := by
    refine m.distinct_keys_toList.imp ?_
    rintro a b hab rfl
    exact hab ReflCmp.compare_self
  rw [List.nodup_flatMap]
  constructor
  · rintro ⟨-, hdisj⟩ o c d hc hd
    by_contra hne
    have hsymm : Std.Symm (Function.onFun List.Disjoint fun e : Id × ExtTreeSet Id => e.2.toList) :=
      ⟨fun _ _ h => fun _ ho ho' => h ho' ho⟩
    have h := hdisj.forall (mem_toList_of_mem (mem_of_mem_getD hc))
      (mem_toList_of_mem (mem_of_mem_getD hd)) (fun e => hne (congrArg Prod.fst e))
    exact h (ExtTreeSet.mem_toList.mpr hc) (ExtTreeSet.mem_toList.mpr hd)
  · intro h
    refine ⟨fun e _ => nodup_toList e.2, hkeys.pairwise_of_forall_ne ?_⟩
    rintro ⟨c, items⟩ hc ⟨d, items'⟩ hd hne o ho ho'
    have hgc := getD_of_mem_toList hc
    have hgd := getD_of_mem_toList hd
    have hcd : c = d := h o c d (by rw [hgc]; exact ExtTreeSet.mem_toList.mp ho)
      (by rw [hgd]; exact ExtTreeSet.mem_toList.mp ho')
    subst hcd
    exact hne (by rw [← hgc, ← hgd])

/-- What is listed at all is listed under some key. -/
theorem mem_listed {m : ExtTreeMap Id (ExtTreeSet Id)} :
    o ∈ m.toList.flatMap (·.2.toList) ↔ ∃ c, o ∈ m.getD c ∅ := by
  rw [List.mem_flatMap]
  constructor
  · rintro ⟨⟨c, items⟩, hc, ho⟩
    exact ⟨c, by rw [getD_of_mem_toList hc]; exact ExtTreeSet.mem_toList.mp ho⟩
  · rintro ⟨c, ho⟩
    exact ⟨_, mem_toList_of_mem (mem_of_mem_getD ho), ExtTreeSet.mem_toList.mpr ho⟩

/-- Nothing is held twice exactly when every object has one holder at most. -/
theorem held_nodup_iff : s.held.Nodup ↔ s.OneHolder := by
  unfold held
  rw [List.nodup_append', List.nodup_append', nodup_flatMap_toList_iff, nodup_flatMap_toList_iff]
  constructor
  · rintro ⟨⟨-, hc, hic⟩, hs, hics⟩ o p q hp hq
    -- no object is in two holders of different kinds
    have hinv_cont : ∀ c, o ∈ s.inventory → o ∈ s.containers.getD c ∅ → False := by
      intro c hi ho
      exact hic (ExtTreeSet.mem_toList.mpr hi) (mem_listed.mpr ⟨c, ho⟩)
    have hinv_scene : ∀ c, o ∈ s.inventory → o ∈ s.scenes.getD c ∅ → False := by
      intro c hi ho
      exact hics (List.mem_append_left _ (ExtTreeSet.mem_toList.mpr hi)) (mem_listed.mpr ⟨c, ho⟩)
    have hcont_scene : ∀ c d, o ∈ s.containers.getD c ∅ → o ∈ s.scenes.getD d ∅ → False := by
      intro c d ho ho'
      have hlisted := List.mem_append_right s.inventory.toList (mem_listed.mpr ⟨c, ho⟩)
      exact hics hlisted (mem_listed.mpr ⟨d, ho'⟩)
    cases p <;> cases q <;> simp only [holds_inventory, holds_container, holds_scene,
      not_holds_nowhere] at hp hq
    · rw [hs o _ _ hp hq]
    · exact (hcont_scene _ _ hq hp).elim
    · exact (hinv_scene _ hq hp).elim
    · exact (hcont_scene _ _ hp hq).elim
    · rw [hc o _ _ hp hq]
    · exact (hinv_cont _ hq hp).elim
    · exact (hinv_scene _ hp hq).elim
    · exact (hinv_cont _ hp hq).elim
    · rfl
  · intro h
    have hcarried : ∀ {o}, o ∈ s.inventory.toList → s.Holds .inventory o := fun hi =>
      holds_inventory.mpr (ExtTreeSet.mem_toList.mp hi)
    refine ⟨⟨nodup_toList _, ?_, ?_⟩, ?_, ?_⟩
    · intro o c d hc hd
      exact Place.container.inj (h o _ _ (holds_container.mpr hc) (holds_container.mpr hd))
    · intro o hi ho
      obtain ⟨c, hc⟩ := mem_listed.mp ho
      cases h o _ _ (hcarried hi) (holds_container.mpr hc)
    · intro o c d hc hd
      exact Place.scene.inj (h o _ _ (holds_scene.mpr hc) (holds_scene.mpr hd))
    · intro o ho hs
      obtain ⟨d, hd⟩ := mem_listed.mp hs
      rcases List.mem_append.mp ho with hi | hc
      · cases h o _ _ (hcarried hi) (holds_scene.mpr hd)
      · obtain ⟨c, hc⟩ := mem_listed.mp hc
        cases h o _ _ (holds_container.mpr hc) (holds_scene.mpr hd)

/-- The check for two holders passes exactly when there is one at most. -/
theorem checkSinglePlacement_eq_ok_iff : s.checkSinglePlacement = .ok () ↔ s.OneHolder := by
  rw [← held_nodup_iff, ← repeated_eq_nil_iff]
  unfold checkSinglePlacement
  cases repeated s.held <;> simp

end GameState

end TextAdventure
