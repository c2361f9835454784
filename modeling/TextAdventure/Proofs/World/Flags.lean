import TextAdventure.Proofs.World.Coherent

/-!
# Flags of a world

A world `Knows` a flag about a scene or an object when the scene or the object exists, and every
flag of another kind. The check of an authored world finds a fault in a name of a flag about
something else, and a name without faults resolves to a known flag (`knows_flag`).
-/

namespace TextAdventure

open Std

/-- What the flag is about exists. -/
def World.Knows (w : World) : Flag → Prop
  | .objectOpen id | .objectLocked id | .objectRevealed id | .lightOn id | .lightDead id
  | .interactionScored id _ => w.hasObject id = true
  | .sceneVisited id | .exitScored id => w.hasScene id = true
  | .light | .achievement _ | .custom _ => True

/-- The world gives out known flags only. -/
structure World.Flagwise (w : World) : Prop where
  initial : ∀ f ∈ w.initialFlags, w.Knows f
  grants : ∀ (id : Id) (o : Object) (verb : Verb) (i : Interaction), w.objects[id]? = some o →
    o.interactions[verb]? = some i → ∀ f ∈ i.grants, w.Knows f

/-! ## Names without faults -/

namespace Authored

/-- What a name without faults refers to is known. -/
theorem reference_of_flagFaults {known : Known} {context name : String}
    (h : flagFaults known context name = []) :
    (∀ id, flagReference? (Text.trim name) = some (true, id) → id ∈ known.objects) ∧
      ∀ id, flagReference? (Text.trim name) = some (false, id) → id ∈ known.scenes := by
  unfold flagFaults at h
  simp only at h
  split at h
  · cases h
  · constructor
    · intro id hid
      rw [hid] at h
      exact missing_eq_nil_iff.mp h
    · intro id hid
      rw [hid] at h
      exact missing_eq_nil_iff.mp h

/-- A name of a kind about objects refers to the object. -/
theorem flagReference?_of_object {text kind id : String}
    (hkind : kind = "open" ∨ kind = "locked" ∨ kind = "revealed" ∨ kind = "on" ∨ kind = "dead")
    (h : text.toList = kind.toList ++ ':' :: id.toList) :
    flagReference? text = some (true, id) := by
  rcases hkind with rfl | rfl | rfl | rfl | rfl <;>
    simp [flagReference?, objectFlagHeads, Text.after?, h, Text.dropHead?]

/-- A name of a kind about scenes refers to the scene. -/
theorem flagReference?_of_scene {text kind id : String}
    (hkind : kind = "visited" ∨ kind = "exit-scored")
    (h : text.toList = kind.toList ++ ':' :: id.toList) :
    flagReference? text = some (false, id) := by
  rcases hkind with rfl | rfl <;>
    simp [flagReference?, objectFlagHeads, sceneFlagHeads, Text.after?, h, Text.dropHead?]

/-- A name of a scored interaction refers to the object before the slash. -/
theorem flagReference?_of_scored {text pair object verb : String}
    (h : text.toList = "scored".toList ++ ':' :: pair.toList)
    (hpair : Text.cut? '/' pair = some (object, verb)) :
    flagReference? text = some (true, object) := by
  simp [flagReference?, objectFlagHeads, sceneFlagHeads, Text.after?, h, Text.dropHead?, hpair]

end Authored

/-! ## Resolved names -/

/-- A word speaks of the light, of a scene, or of an object in one of five ways. -/
theorem Flag.ofWord?_cases {isObject isScene : Id → Bool} {name : String} {f : Flag}
    (h : ofWord? isObject isScene name = some f) :
    f = light ∨ (∃ scene, isScene scene = true ∧ f = sceneVisited scene) ∨
      ∃ id, isObject id = true ∧
        f ∈ [objectOpen id, objectLocked id, objectRevealed id, lightOn id, lightDead id] := by
  unfold ofWord? at h
  split at h
  · exact .inl (Option.some.inj h).symm
  · split at h
    · rename_i scene hbefore
      exact .inr (.inl ⟨scene, (Option.filter_eq_some_iff.mp hbefore).2,
        (Option.some.inj h).symm⟩)
    · obtain ⟨⟨ending, make⟩, hmem, hmake⟩ := List.exists_of_findSome?_eq_some h
      obtain ⟨id, hid, rfl⟩ := Option.map_eq_some_iff.mp hmake
      refine .inr (.inr ⟨id, (Option.filter_eq_some_iff.mp hid).2, ?_⟩)
      simp only [objectEndings, List.mem_cons, Prod.mk.injEq, List.not_mem_nil, or_false] at hmem
      rcases hmem with ⟨-, rfl⟩ | ⟨-, rfl⟩ | ⟨-, rfl⟩ | ⟨-, rfl⟩ | ⟨-, rfl⟩ <;> simp

namespace World

variable {a : Authored.World} {w : World} {context name text : String} {f : Flag}

/-- The written form of a flag stands for a known flag when what it refers to is known. -/
theorem knows_ofTyped (h : World.ofAuthored a = .ok w)
    (hobject : ∀ id, Authored.flagReference? text = some (true, id) →
      id ∈ (Authored.Known.ofWorld a).objects)
    (hscene : ∀ id, Authored.flagReference? text = some (false, id) →
      id ∈ (Authored.Known.ofWorld a).scenes)
    (hf : Flag.ofTyped? text = some f) : w.Knows f := by
  unfold Flag.ofTyped? at hf
  split at hf
  · rename_i kind id hcut
    have htext := Text.toList_of_cut? hcut
    have hobj := fun hkind => hasObject_of_known h
      (hobject id (Authored.flagReference?_of_object hkind htext))
    have hscn := fun hkind => hasScene_of_known h
      (hscene id (Authored.flagReference?_of_scene hkind htext))
    split at hf
    · cases hf
    · split at hf
      · rename_i hkind
        subst hkind
        unfold Flag.ofScored? at hf
        split at hf
        · rename_i object verb hpair
          split at hf
          · cases hf
          · cases hf
            exact hasObject_of_known h
              (hobject object (Authored.flagReference?_of_scored htext hpair))
        · cases hf
      · -- one kind after the other, each checked by its own head
        unfold Flag.ofKind? at hf
        split at hf
        all_goals cases hf
        · exact hobj (.inl rfl)
        · exact hobj (.inr (.inl rfl))
        · exact hobj (.inr (.inr (.inl rfl)))
        · exact hscn (.inl rfl)
        · exact hobj (.inr (.inr (.inr (.inl rfl))))
        · exact hobj (.inr (.inr (.inr (.inr rfl))))
        · exact hscn (.inr rfl)
        · trivial
  · cases hf

/-- A word that speaks of something speaks of something known. -/
theorem knows_ofWord {isObject isScene : Id → Bool}
    (hobject : ∀ id, isObject id = true → w.hasObject id = true)
    (hscene : ∀ id, isScene id = true → w.hasScene id = true)
    (hf : Flag.ofWord? isObject isScene text = some f) : w.Knows f := by
  rcases Flag.ofWord?_cases hf with rfl | ⟨scene, hid, rfl⟩ | ⟨id, hid, hmem⟩
  · trivial
  · exact hscene scene hid
  · have hid := hobject id hid
    simp only [List.mem_cons, List.not_mem_nil, or_false] at hmem
    rcases hmem with rfl | rfl | rfl | rfl | rfl <;> exact hid

/-- **A name without faults** resolves to a known flag. -/
theorem knows_flag (h : World.ofAuthored a = .ok w)
    (hname : Authored.flagFaults (.ofWorld a) context name = []) : w.Knows (a.flag name) := by
  obtain ⟨hobject, hscene⟩ := Authored.reference_of_flagFaults hname
  have htext : w.Knows (Flag.ofText name) := by
    unfold Flag.ofText
    simp only
    split
    · trivial
    · cases hf : Flag.ofTyped? (Text.trim name) with
      | none => trivial
      | some f => exact knows_ofTyped h hobject hscene hf
  unfold Authored.World.flag Flag.resolve
  split
  · rename_i word _
    cases hf : Flag.ofWord? _ _ word with
    | none => trivial
    | some f =>
      refine knows_ofWord (fun id hid => ?_) (fun id hid => ?_) hf
      · obtain ⟨written, hmem, heq⟩ := List.any_eq_true.mp hid
        rw [← beq_iff_eq.mp heq]
        exact hasObject_of_resolved h hmem
      · obtain ⟨written, hmem, heq⟩ := List.any_eq_true.mp hid
        rw [← beq_iff_eq.mp heq]
        exact hasScene_of_resolved h hmem
  · exact htext

end World

end TextAdventure
