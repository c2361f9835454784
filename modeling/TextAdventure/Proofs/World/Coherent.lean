import Mathlib.Data.List.Nodup
import Mathlib.Logic.Relation
import TextAdventure.Proofs.World.Containment
import TextAdventure.Proofs.World.Resolved

/-!
# Coherent worlds

A world is `Coherent` when everything it refers to exists and no object starts inside itself.
Worlds without faults resolve to coherent ones (`coherent_of_compile`): the check of the authored
world covers every id that the game looks up later.
-/

namespace TextAdventure

open Std Relation

/-- Everything that an interaction refers to exists. -/
structure World.Supports (w : World) (i : Interaction) : Prop where
  tools : ∀ id ∈ i.requiresHeld, w.hasObject id = true
  reveals : ∀ id ∈ i.reveals, w.hasObject id = true
  transfers : ∀ t ∈ i.transfers, w.hasObject t.object = true ∧ w.HasPlace t.destination
  scene : ∀ id, i.targetScene = some id → w.hasScene id = true

/-- Everything that the world refers to exists, and no object starts inside itself. -/
structure World.Coherent (w : World) : Prop where
  start : w.hasScene w.startScene = true
  key : ∀ (id : Id) (o : Object), w.objects[id]? = some o → o.id = id
  exits : ∀ (id : Id) (sc : Scene), w.scenes[id]? = some sc →
    ∀ e ∈ sc.exits, w.hasScene e.destination = true
  starts : ∀ (id : Id) (o : Object), w.objects[id]? = some o → w.HasPlace o.start
  entries : ∀ (id : Id) (o : Object) (verb : Verb) (i : Interaction), w.objects[id]? = some o →
    o.interactions[verb]? = some i → w.Supports i
  acyclic : ∀ o, ¬ TransGen w.StartsInside o o

namespace Authored

/-! ## Worlds without faults -/

/-- The parts of a world without faults are without faults. -/
structure World.Faultless (a : World) : Prop where
  scenes : (a.scenes.map (·.id)).Nodup
  objects : (a.objects.map (·.id)).Nodup
  game : gameFaults (.ofWorld a) a.game = []
  scene : ∀ s ∈ a.scenes, sceneFaults (.ofWorld a) s = []
  object : ∀ o ∈ a.objects, objectFaults (.ofWorld a) o = []
  cycles : cycleFaults a.objects = []

theorem World.faults_eq_nil_iff {a : World} : a.faults = [] ↔ a.Faultless := by
  unfold faults
  simp only [List.append_eq_nil_iff, List.map_eq_nil_iff, repeated_eq_nil_iff,
    List.flatMap_eq_nil_iff]
  constructor
  · rintro ⟨⟨⟨⟨⟨hscenes, hobjects⟩, hgame⟩, hscene⟩, hobject⟩, hcycles⟩
    exact ⟨hscenes, hobjects, hgame, hscene, hobject, hcycles⟩
  · rintro ⟨hscenes, hobjects, hgame, hscene, hobject, hcycles⟩
    exact ⟨⟨⟨⟨⟨hscenes, hobjects⟩, hgame⟩, hscene⟩, hobject⟩, hcycles⟩

theorem World.faultless {a : World} (h : a.faults = []) : a.Faultless := faults_eq_nil_iff.mp h

variable {known : Known} {context : String}

theorem missing_eq_nil_iff {kind : String} {id : Id} {ids : List Id} :
    missing kind id ids context = [] ↔ id ∈ ids := by
  unfold missing
  split <;> simp [*]

/-- A holder without faults is among the containers. -/
theorem container_of_placeFaults {holder : Id}
    (h : placeFaults known context (.container holder) = []) : holder ∈ known.containers := by
  by_contra hnot
  unfold placeFaults at h
  by_cases hobject : holder ∈ known.objects
  · simp [hobject, hnot] at h
  · simp [hobject] at h

/-- Every exit of a scene without faults has a destination that exists and a condition without
faults. -/
theorem parts_of_exitFaults {scene : Id} {taken : List String} {exits : List Exit}
    (h : exitFaults known scene taken exits = []) :
    ∀ e ∈ exits, e.destination ∈ known.scenes ∧
      ∃ context, conditionFaults known context e.requires = [] := by
  induction exits generalizing taken with
  | nil => exact fun e he => (List.not_mem_nil he).elim
  | cons first rest ih =>
    unfold exitFaults at h
    simp only at h
    split at h
    · simp at h
    · split at h
      · simp at h
      · rw [List.append_eq_nil_iff, List.append_eq_nil_iff, missing_eq_nil_iff] at h
        obtain ⟨⟨hdestination, hrequires⟩, hrest⟩ := h
        intro e he
        rcases List.mem_cons.mp he with rfl | he
        · exact ⟨hdestination, _, hrequires⟩
        · exact ih hrest e he

/-- In an object without faults every interaction has a verb and no faults. -/
theorem parts_of_interactionFaults {object : Id} {taken : List String}
    {written : List Interaction} (h : interactionFaults known object taken written = []) :
    ∀ i ∈ written, Text.lower (Text.trim i.verb) ≠ "" ∧
      ∃ context, effectFaults known context i = [] := by
  induction written generalizing taken with
  | nil => exact fun i hi => (List.not_mem_nil hi).elim
  | cons first rest ih =>
    unfold interactionFaults at h
    simp only at h
    split at h
    · simp at h
    · rename_i hverb
      split at h
      · simp at h
      · rw [List.append_eq_nil_iff] at h
        obtain ⟨hfirst, hrest⟩ := h
        intro i hi
        rcases List.mem_cons.mp hi with rfl | hi
        · exact ⟨by simpa using hverb, _, hfirst⟩
        · exact ih hrest i hi

end Authored

/-! ## From the check to the world -/

namespace World

variable {a : Authored.World} {w : World} {id : Id} {context : String}

theorem hasScene_of_known (h : World.ofAuthored a = .ok w)
    (hid : id ∈ (Authored.Known.ofWorld a).scenes) : w.hasScene id = true := by
  obtain ⟨written, hmem, rfl⟩ := List.mem_map.mp hid
  exact hasScene_of_resolved h hmem

theorem hasObject_of_known (h : World.ofAuthored a = .ok w)
    (hid : id ∈ (Authored.Known.ofWorld a).objects) : w.hasObject id = true := by
  obtain ⟨written, hmem, rfl⟩ := List.mem_map.mp hid
  exact hasObject_of_resolved h hmem

/-- A place without faults exists. With two objects of one id the container could be the other
one, so the ids must be distinct. -/
theorem hasPlace_of_placeFaults (h : World.ofAuthored a = .ok w)
    (hnodup : (a.objects.map (·.id)).Nodup) {p : Place}
    (hp : Authored.placeFaults (.ofWorld a) context p = []) : w.HasPlace p := by
  cases p with
  | inventory => trivial
  | nowhere => trivial
  | scene id => exact hasScene_of_known h (Authored.missing_eq_nil_iff.mp hp)
  | container holder =>
    obtain ⟨written, hmem, rfl⟩ := List.mem_map.mp (Authored.container_of_placeFaults hp)
    obtain ⟨hmem, hsome⟩ := List.mem_filter.mp hmem
    obtain ⟨o, ho, hok⟩ := object_of_written h hnodup hmem
    refine ⟨o, ho, ?_⟩
    unfold Object.isContainer
    rw [(Compile.object_eq_ok hok).2.2.2.1]
    exact hsome

/-- What an interaction without faults refers to exists. -/
theorem supports_of_effectFaults (h : World.ofAuthored a = .ok w)
    (hnodup : (a.objects.map (·.id)).Nodup) {i : Authored.Interaction} {i' : Interaction}
    (hi : Authored.effectFaults (.ofWorld a) context i = [])
    {context' : String} (hok : Compile.interaction a context' i = .ok i') : w.Supports i' := by
  obtain ⟨hheld, hreveals, htransfers, hscene⟩ := Compile.interaction_eq_ok hok
  unfold Authored.effectFaults at hi
  simp only [List.append_eq_nil_iff, List.flatMap_eq_nil_iff, Authored.missing_eq_nil_iff] at hi
  obtain ⟨⟨⟨⟨-, htool⟩, hreveal⟩, htransfer⟩, htarget⟩ := hi
  constructor
  · intro id hid
    exact hasObject_of_known h (htool id (hheld ▸ hid))
  · intro id hid
    exact hasObject_of_known h (hreveal id (hreveals ▸ hid))
  · intro t ht
    obtain ⟨hobject, hplace⟩ := htransfer t (htransfers ▸ ht)
    exact ⟨hasObject_of_known h hobject, hasPlace_of_placeFaults h hnodup hplace⟩
  · intro id hid
    rw [← hscene, hid] at htarget
    exact hasScene_of_known h (Authored.missing_eq_nil_iff.mp htarget)

theorem hasScene_startScene (h : World.ofAuthored a = .ok w) (ha : a.Faultless) :
    w.hasScene w.startScene = true := by
  obtain ⟨hstart, -⟩ := ofAuthored_eq_ok h
  have hgame := ha.game
  unfold Authored.gameFaults at hgame
  rw [List.append_eq_nil_iff, List.append_eq_nil_iff] at hgame
  obtain ⟨⟨hscene, -⟩, -⟩ := hgame
  split at hscene
  · cases hscene
  · rw [hstart]
    exact hasScene_of_known h (Authored.missing_eq_nil_iff.mp hscene)

theorem hasScene_destination (h : World.ofAuthored a = .ok w) (ha : a.Faultless) {sc : Scene}
    (hsc : w.scenes[id]? = some sc) : ∀ e ∈ sc.exits, w.hasScene e.destination = true := by
  intro e he
  obtain ⟨-, written, hmem, hok⟩ := scene_of_resolved h hsc
  obtain ⟨-, hexits⟩ := Compile.scene_eq_ok hok
  obtain ⟨e', he', hexit⟩ := exists_of_mem_values hexits he
  have hfaults := ha.scene written hmem
  unfold Authored.sceneFaults at hfaults
  rw [(Compile.exit_eq_ok hexit).2.1]
  exact hasScene_of_known h
    (Authored.parts_of_exitFaults (List.append_eq_nil_iff.mp hfaults).2 e' he').1

theorem hasPlace_start (h : World.ofAuthored a = .ok w) (ha : a.Faultless) {o : Object}
    (ho : w.objects[id]? = some o) : w.HasPlace o.start := by
  obtain ⟨-, written, hmem, hok⟩ := object_of_resolved h ho
  have hfaults := ha.object written hmem
  unfold Authored.objectFaults at hfaults
  simp only [List.append_eq_nil_iff] at hfaults
  rw [(Compile.object_eq_ok hok).2.1]
  exact hasPlace_of_placeFaults h ha.objects hfaults.1.1.1.1.1

/-- An interaction of the world was written for its verb, and without faults. -/
theorem interaction_of_resolved (h : World.ofAuthored a = .ok w) (ha : a.Faultless) {o : Object}
    {verb : Verb} {i : Interaction} (ho : w.objects[id]? = some o)
    (hi : o.interactions[verb]? = some i) :
    ∃ written : Authored.Interaction, Text.lower (Text.trim written.verb) ≠ "" ∧
      Verb.ofText written.verb = verb ∧
      (∃ context, Authored.effectFaults (.ofWorld a) context written = []) ∧
      ∃ context, Compile.interaction a context written = .ok i := by
  obtain ⟨-, o', hmem, hok⟩ := object_of_resolved h ho
  have hfaults := ha.object o' hmem
  unfold Authored.objectFaults at hfaults
  simp only [List.append_eq_nil_iff] at hfaults
  rcases Compile.interactions_eq_ok (Compile.object_eq_ok hok).2.2.2.2.2 hi with
    hnone | ⟨written, hwritten, hverb, hresolved⟩
  · rw [ExtTreeMap.getElem?_empty] at hnone
    cases hnone
  · obtain ⟨hword, heffects⟩ := Authored.parts_of_interactionFaults hfaults.2 written hwritten
    exact ⟨written, hword, hverb, heffects, hresolved⟩

theorem supports_interaction (h : World.ofAuthored a = .ok w) (ha : a.Faultless) {o : Object}
    {verb : Verb} {i : Interaction} (ho : w.objects[id]? = some o)
    (hi : o.interactions[verb]? = some i) : w.Supports i := by
  obtain ⟨_, -, -, ⟨_, heffects⟩, _, hresolved⟩ := interaction_of_resolved h ha ho hi
  exact supports_of_effectFaults h ha.objects heffects hresolved

/-- The holders that the check for cycles follows are those of the world. -/
theorem startHolders_of_startsInside (h : World.ofAuthored a = .ok w) (ha : a.Faultless)
    {x c : Id} (hin : w.StartsInside x c) :
    (Authored.startHolders a.objects)[x]? = some c := by
  obtain ⟨o, ho, hstart⟩ := hin
  obtain ⟨rfl, written, hmem, hok⟩ := object_of_resolved h ho
  obtain ⟨hid, hloc, -⟩ := Compile.object_eq_ok hok
  rw [hid]
  exact Authored.getElem?_startHolders ha.objects hmem (hloc.symm.trans hstart)

/-- A world without faults resolves to a coherent one. -/
theorem coherent_of_faultless (h : World.ofAuthored a = .ok w) (ha : a.Faultless) :
    w.Coherent where
  start := hasScene_startScene h ha
  key _ _ ho := (object_of_resolved h ho).1
  exits _ _ hsc := hasScene_destination h ha hsc
  starts _ _ ho := hasPlace_start h ha ho
  entries _ _ _ _ ho hi := supports_interaction h ha ho hi
  acyclic x hcycle := Authored.cycleFaults_eq_nil_iff.mp ha.cycles x
    (TransGen.mono (fun _ _ hin => startHolders_of_startsInside h ha hin) x x hcycle)

/-- **A compiled world is coherent.** -/
theorem coherent_of_compile (h : World.compile a = .ok w) : w.Coherent := by
  obtain ⟨hfaults, hresolved⟩ := compile_eq_ok h
  exact coherent_of_faultless hresolved (Authored.World.faultless hfaults)

end World

end TextAdventure
