import TextAdventure.Proofs.Outcome

/-!
# Finding scenes and objects

A lookup by id goes through exactly for the ids that exist, and gives what is kept under the id;
otherwise the error names the id.
-/

namespace TextAdventure.World

open Std

variable {w : World} {id : Id} {o : Object} {sc : Scene}

@[simp] theorem object_eq_ok : w.object id = .ok o ↔ w.objects[id]? = some o := by
  unfold object
  cases h : w.objects[id]? <;> simp

@[simp] theorem scene_eq_ok : w.scene id = .ok sc ↔ w.scenes[id]? = some sc := by
  unfold scene
  cases h : w.scenes[id]? <;> simp

theorem hasObject_iff : w.hasObject id = true ↔ ∃ o, w.objects[id]? = some o := by
  unfold hasObject
  rw [ExtTreeMap.contains_eq_isSome_getElem?, Option.isSome_iff_exists]

theorem hasScene_iff : w.hasScene id = true ↔ ∃ sc, w.scenes[id]? = some sc := by
  unfold hasScene
  rw [ExtTreeMap.contains_eq_isSome_getElem?, Option.isSome_iff_exists]

theorem object_eq_error {cause : WorldError} :
    w.object id = .error cause ↔ w.hasObject id = false ∧ cause = .unknownObject id := by
  unfold object hasObject
  rw [ExtTreeMap.contains_eq_isSome_getElem?]
  cases h : w.objects[id]? <;> simp [eq_comm (a := cause)]

theorem scene_eq_error {cause : WorldError} :
    w.scene id = .error cause ↔ w.hasScene id = false ∧ cause = .unknownScene id := by
  unfold scene hasScene
  rw [ExtTreeMap.contains_eq_isSome_getElem?]
  cases h : w.scenes[id]? <;> simp [eq_comm (a := cause)]

@[simp] theorem nameOf_eq_ok {name : String} :
    w.nameOf id = .ok name ↔ ∃ o, w.objects[id]? = some o ∧ o.name = name := by
  simp only [nameOf, bind_eq_ok, object_eq_ok, pure_eq_ok]

/-- An object is known by name when it is known at all. -/
theorem nameOf_ok (h : w.hasObject id = true) : ∃ name, w.nameOf id = .ok name := by
  obtain ⟨o, ho⟩ := hasObject_iff.mp h
  exact ⟨o.name, nameOf_eq_ok.mpr ⟨o, ho, rfl⟩⟩

/-- The place exists: a scene of the world, a container of the world, or no holder that could be
missing. -/
def HasPlace (w : World) : Place → Prop
  | .scene id => w.hasScene id = true
  | .container id => ∃ o, w.objects[id]? = some o ∧ o.isContainer = true
  | .inventory | .nowhere => True

/-- The object starts directly in the container. -/
def StartsInside (w : World) (o c : Id) : Prop :=
  ∃ obj, w.objects[o]? = some obj ∧ obj.start = .container c

end TextAdventure.World
