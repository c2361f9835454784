import TextAdventure.Proofs.State.Nesting

/-!
# Well-placed states

Where the objects of a world are, and that it makes sense: every object has one holder at most,
every id in a holder and every id of a holder exists, and, in a `WellPlaced` state, nothing is
inside itself.

* **frame** — only the holders matter (`SameHolders.placed`, `SameHolders.wellPlaced`);
* **steps** — taking an object out keeps a state placed, and so does putting a free object into a
  place that exists and is not inside it (`Placed.unplace`, `Placed.added`, and the same for
  `WellPlaced`).
-/

namespace TextAdventure

open Std Relation

namespace GameState

variable {w : World} {s t u : GameState} {o : Id} {p : Place}

/-- The states agree on what every holder has. -/
structure SameHolders (s t : GameState) : Prop where
  inventory : t.inventory = s.inventory
  containers : t.containers = s.containers
  scenes : t.scenes = s.scenes

theorem SameHolders.rfl : SameHolders s s := ⟨Eq.refl _, Eq.refl _, Eq.refl _⟩

theorem SameHolders.symm (h : SameHolders s t) : SameHolders t s :=
  ⟨h.inventory.symm, h.containers.symm, h.scenes.symm⟩

theorem SameHolders.trans (h : SameHolders s t) (h' : SameHolders t u) : SameHolders s u :=
  ⟨h'.inventory.trans h.inventory, h'.containers.trans h.containers, h'.scenes.trans h.scenes⟩

theorem SameHolders.contentsAt (h : SameHolders s t) : t.contentsAt p = s.contentsAt p := by
  cases p with
  | inventory => simp only [GameState.contentsAt, h.inventory]
  | container c => simp only [GameState.contentsAt, contentsOf, h.containers]
  | scene c => simp only [GameState.contentsAt, sceneContents, h.scenes]
  | nowhere => rfl

theorem SameHolders.holds_iff (h : SameHolders s t) : t.Holds p o ↔ s.Holds p o := by
  unfold Holds
  rw [h.contentsAt]

theorem SameHolders.oneHolder (h : SameHolders s t) (hs : s.OneHolder) : t.OneHolder :=
  fun o p q hp hq => hs o p q (h.holds_iff.mp hp) (h.holds_iff.mp hq)

theorem SameHolders.acyclic (h : SameHolders s t) (ha : s.Acyclic) : t.Acyclic :=
  ha.mono fun _ _ hin => h.holds_iff.mp hin

/-- Everything that is held exists. -/
def HeldKnown (w : World) (s : GameState) : Prop := ∀ p o, s.Holds p o → w.hasObject o = true

theorem SameHolders.heldKnown (h : SameHolders s t) (hs : HeldKnown w s) : HeldKnown w t :=
  fun p o ho => hs p o (h.holds_iff.mp ho)

/-- Every object has one holder at most, and all ids in the holders exist in the world. -/
structure Placed (w : World) (s : GameState) : Prop where
  single : s.OneHolder
  known : ∀ p o, s.Holds p o → w.hasObject o = true
  containers : ∀ c ∈ s.containers, w.HasPlace (.container c)
  scenes : ∀ c ∈ s.scenes, w.HasPlace (.scene c)

/-- The state is placed, and nothing is inside itself. -/
structure WellPlaced (w : World) (s : GameState) : Prop extends Placed w s where
  acyclic : s.Acyclic

/-- Every object is in a place that exists. -/
theorem Placed.hasPlace_locationOf (hs : Placed w s) (o : Id) : w.HasPlace (s.locationOf o) := by
  have hheld : s.locationOf o ≠ .nowhere → s.Holds (s.locationOf o) o := holds_locationOf
  cases hloc : s.locationOf o with
  | nowhere => trivial
  | inventory => trivial
  | container c =>
    rw [hloc] at hheld
    exact hs.containers c (mem_of_mem_getD (holds_container.mp (hheld Place.noConfusion)))
  | scene c =>
    rw [hloc] at hheld
    exact hs.scenes c (mem_of_mem_getD (holds_scene.mp (hheld Place.noConfusion)))

/-- Only the holders matter. -/
theorem SameHolders.placed (h : SameHolders s t) (hs : Placed w s) : Placed w t where
  single := h.oneHolder hs.single
  known p o ho := hs.known p o (h.holds_iff.mp ho)
  containers c hc := hs.containers c (h.containers ▸ hc)
  scenes c hc := hs.scenes c (h.scenes ▸ hc)

theorem SameHolders.wellPlaced (h : SameHolders s t) (hs : WellPlaced w s) : WellPlaced w t where
  toPlaced := h.placed hs.toPlaced
  acyclic := h.acyclic hs.acyclic

/-- The states agree on everything but the holders. -/
structure SameBesides (s t : GameState) : Prop where
  currentScene : t.currentScene = s.currentScene
  flags : t.flags = s.flags
  score : t.score = s.score
  turnCount : t.turnCount = s.turnCount
  lightUsage : t.lightUsage = s.lightUsage

theorem SameBesides.trans (h : SameBesides s t) (h' : SameBesides t u) : SameBesides s u where
  currentScene := h'.currentScene.trans h.currentScene
  flags := h'.flags.trans h.flags
  score := h'.score.trans h.score
  turnCount := h'.turnCount.trans h.turnCount
  lightUsage := h'.lightUsage.trans h.lightUsage

/-! ## Steps -/

theorem sameBesides_unplace : SameBesides s (s.unplace o) := by
  unfold GameState.unplace
  cases s.locationOf o <;> exact ⟨rfl, rfl, rfl, rfl, rfl⟩

theorem sameBesides_added : SameBesides s (s.added o p) := by
  cases p <;> exact ⟨rfl, rfl, rfl, rfl, rfl⟩

/-- Taking an object out of its holder keeps a state placed. -/
theorem Placed.unplace (hs : Placed w s) : Placed w (s.unplace o) where
  single := hs.single.unplace
  known p x hx := hs.known p x (holds_unplace_iff.mp hx).1
  containers c hc := hs.containers c (mem_containers_unplace.mp hc)
  scenes c hc := hs.scenes c (mem_scenes_unplace.mp hc)

theorem WellPlaced.unplace (hs : WellPlaced w s) : WellPlaced w (s.unplace o) where
  toPlaced := hs.toPlaced.unplace
  acyclic := hs.acyclic.unplace

/-- Putting an object that nothing holds into a place that exists keeps a state placed. -/
theorem Placed.added (hs : Placed w s) (hout : ∀ q, ¬ s.Holds q o) (ho : w.hasObject o = true)
    (hp : w.HasPlace p) : Placed w (s.added o p) where
  single := hs.single.added hout
  known q x hx := by
    rcases holds_added.mp hx with hbefore | ⟨-, -, rfl⟩
    · exact hs.known q x hbefore
    · exact ho
  containers c hc := by
    rcases mem_containers_added.mp hc with hbefore | rfl
    · exact hs.containers c hbefore
    · exact hp
  scenes c hc := by
    rcases mem_scenes_added.mp hc with hbefore | rfl
    · exact hs.scenes c hbefore
    · exact hp

/-- It keeps a state well placed unless the place is the object or inside it. -/
theorem WellPlaced.added (hs : WellPlaced w s) (hout : ∀ q, ¬ s.Holds q o)
    (ho : w.hasObject o = true) (hp : w.HasPlace p)
    (hfree : ∀ holder, p = .container holder → ¬ ReflTransGen s.Inside holder o) :
    WellPlaced w (s.added o p) where
  toPlaced := hs.toPlaced.added hout ho hp
  acyclic := hs.acyclic.added hfree

/-- Nothing holds an object that has been taken out. -/
theorem OneHolder.not_holds_unplace (hs : s.OneHolder) : ¬ (s.unplace o).Holds p o :=
  fun h => ((holds_unplace hs).mp h).2 rfl

end GameState

end TextAdventure
