import TextAdventure.Proofs.Verb
import TextAdventure.Proofs.World.Flags

/-!
# Texts of flags of a world

What an author calls a flag stands for one that is read back from its text, or for one about the
light, a scene or an object (`resolve_cases`). The verbs of a compiled world can be told from what
stands around them (`isClosed_key_of_compile`). So it depends on the ids that the author has chosen
whether flags are read back, and in a `Legible` world all of them are.
-/

namespace TextAdventure

open Std Text

/-! ## Names of flags -/

namespace Flag

variable {isObject isScene : Id → Bool} {name : String} {f : Flag}

/-- Flags about the light, a scene or an object that an author can name by a word. -/
def isWorded : Flag → Bool
  | .objectOpen _ | .objectLocked _ | .objectRevealed _ | .sceneVisited _ | .lightOn _
  | .lightDead _ | .light => true
  | .interactionScored _ _ | .exitScored _ | .achievement _ | .custom _ => false

theorem isWorded_of_ofWord? (h : ofWord? isObject isScene name = some f) :
    f.isWorded = true := by
  rcases ofWord?_cases h with rfl | ⟨scene, -, rfl⟩ | ⟨id, -, hmem⟩
  · rfl
  · rfl
  · simp only [List.mem_cons, List.not_mem_nil, or_false] at hmem
    rcases hmem with rfl | rfl | rfl | rfl | rfl <;> rfl

/-- A name stands for what is read from it, or for what it says as a word. -/
theorem resolve_cases (isObject isScene : Id → Bool) (name : String) :
    resolve isObject isScene name = ofText name ∨
      (resolve isObject isScene name).isWorded = true := by
  unfold resolve
  split
  · rename_i text htext
    cases hword : ofWord? isObject isScene text with
    | none => exact .inl htext.symm
    | some f => exact .inr (isWorded_of_ofWord? hword)
  · exact .inl rfl

/-- What a name stands for is read back when it is legible. -/
theorem ofText_text_resolve_iff (h : resolve isObject isScene name = f) :
    ofText f.text = f ↔ f.isLegible = true := by
  rcases resolve_cases isObject isScene name with hread | hworded
  · rw [← h, hread]
    exact iff_of_true (ofText_text_ofText name) (isLegible_ofText name)
  · rw [h] at hworded
    refine ofText_text_iff (fun object verb heq => ?_) fun name heq => ?_
    · rw [heq] at hworded
      cases hworded
    · rw [heq] at hworded
      cases hworded

end Flag

/-! ## Legible worlds -/

/-- The ids of the world can be told from what is written around them: none is empty or ends in a
blank, and none has a slash in it that stands before a verb. -/
structure World.Legible (w : World) : Prop where
  scenes : ∀ id, w.hasScene id = true → isClosed id = true
  objects : ∀ id, w.hasObject id = true → isClosed id = true
  scored : ∀ (id : Id) (o : Object) (verb : Verb) (i : Interaction), w.objects[id]? = some o →
    o.interactions[verb]? = some i → i.score ≠ 0 → '/' ∉ id.toList
  trophies : ∀ a ∈ w.scoring.achievements, isClosed a.id = true

instance (w : World) : Decidable w.Legible :=
  decidable_of_iff ((∀ id ∈ w.scenes.keys, isClosed id = true) ∧
      (∀ id ∈ w.objects.keys, isClosed id = true) ∧
      (∀ e ∈ w.objects.toList, ∀ i ∈ e.2.interactions.toList, i.2.score ≠ 0 →
        '/' ∉ e.1.toList) ∧
      ∀ a ∈ w.scoring.achievements, isClosed a.id = true)
    ⟨fun ⟨hscenes, hobjects, hscored, htrophies⟩ =>
      { scenes := fun id hid => hscenes id (ExtTreeMap.mem_keys.mpr hid)
        objects := fun id hid => hobjects id (ExtTreeMap.mem_keys.mpr hid)
        scored := fun id o verb i ho hi =>
          hscored (id, o) (ExtTreeMap.mem_toList_iff_getElem?_eq_some.mpr ho)
            (verb, i) (ExtTreeMap.mem_toList_iff_getElem?_eq_some.mpr hi)
        trophies := htrophies },
      fun h =>
        ⟨fun id hid => h.scenes id (ExtTreeMap.mem_keys.mp hid),
          fun id hid => h.objects id (ExtTreeMap.mem_keys.mp hid),
          fun e he i hi =>
            h.scored e.1 e.2 i.1 i.2 (ExtTreeMap.mem_toList_iff_getElem?_eq_some.mp he)
              (ExtTreeMap.mem_toList_iff_getElem?_eq_some.mp hi),
          h.trophies⟩⟩

namespace World

variable {a : Authored.World} {w : World} {f : Flag}

/-- In a legible world a known flag that can be named by a word is legible. -/
theorem Legible.of_isWorded (hw : w.Legible) (hknown : w.Knows f) (hf : f.isWorded = true) :
    f.isLegible = true := by
  cases f with
  | light => rfl
  | sceneVisited id => exact hw.scenes id hknown
  | objectOpen id | objectLocked id | objectRevealed id | lightOn id | lightDead id =>
    exact hw.objects id hknown
  | interactionScored _ _ | exitScored _ | achievement _ | custom _ => cases hf

/-- In a legible world an author's name for a known flag stands for a legible one. -/
theorem Legible.flag (hw : w.Legible) {name : String} (hknown : w.Knows (a.flag name)) :
    (a.flag name).isLegible = true := by
  unfold Authored.World.flag at hknown ⊢
  rcases Flag.resolve_cases _ _ name with hread | hworded
  · rw [hread]
    exact Flag.isLegible_ofText name
  · exact hw.of_isWorded hknown hworded

/-- The names of the verbs of a compiled world can be told from what stands around them. -/
theorem isClosed_key_of_compile (h : World.compile a = .ok w) {id : Id} {o : Object} {verb : Verb}
    {i : Interaction} (ho : w.objects[id]? = some o) (hi : o.interactions[verb]? = some i) :
    isClosed verb.key = true := by
  obtain ⟨hfaults, hresolved⟩ := compile_eq_ok h
  obtain ⟨written, hword, rfl, -⟩ :=
    interaction_of_resolved hresolved (Authored.World.faultless hfaults) ho hi
  exact Verb.isClosed_key hword

end World

end TextAdventure
