import TextAdventure.Proofs.Game.Light
import TextAdventure.Proofs.State.Trees

/-!
# Contents at any depth

What lies in a scene, in the player's hands or in a container is looked at in three ways: from
above, as a tree; from below, by the way out of each object; and by weight. With one holder at
most for every object and nothing inside itself they say the same: the trees list exactly what ends
up in a place, and so presence and light can be told from either (`views_agree`), and each weight
and each load is one sum over all that lies in the object or in the place (`weights_exact`).
-/

namespace TextAdventure

open Std Relation GameState

/-! ## An attic -/

/-- A dark attic. The player has a sack with a lamp in it that is on; in a trunk there is a box
with an anvil in it that is as heavy as anything can be. -/
def attic : Authored.World where
  game := { title := "Attic", startScene := "attic" }
  scenes := [{ id := "attic", name := "Attic", desc := { text := "An attic." } }]
  objects := [
    { id := "sack", name := "sack", desc := { text := "A sack." }, location := .inventory,
      takeable := true, container := some { capacity := 9, isOpen := true } },
    { id := "lamp", name := "lamp", desc := { text := "A lamp." }, location := .container "sack",
      takeable := true, weight := 2, lightSource := some { on := true } },
    { id := "trunk", name := "trunk", desc := { text := "A trunk." }, location := .scene "attic",
      container := some { capacity := 9 } },
    { id := "box", name := "box", desc := { text := "A box." }, location := .container "trunk",
      container := some { capacity := 9 } },
    { id := "anvil", name := "anvil", desc := { text := "An anvil." },
      location := .container "box", weight := 4294967295 }]

/-! ## Trees -/

namespace GameState

variable {s : GameState} {w : World}

/-- The scene has a light of its own, or the player has, at any depth, a light source that is
on. -/
def Lit (w : World) (s : GameState) : Prop :=
  (∃ sc, w.scenes[s.currentScene]? = some sc ∧ sc.naturalLight = true) ∨
    ∃ o obj, w.objects[o]? = some obj ∧ obj.isLightSource = true ∧
      s.rootLocation o = .inventory ∧ s.lampOf o = .on

/-- Light is found exactly where there is some; only a scene or a thing carried that does not exist
is an error. -/
theorem hasLight_finds (hs : s.OneHolder) (ha : s.Acyclic) (w : World) :
    match s.hasLight w with
    | .ok lit => lit = true ↔ s.Lit w
    | .error cause =>
      (w.hasScene s.currentScene = false ∧ cause = .unknownScene s.currentScene) ∨
        ∃ o, s.rootLocation o = .inventory ∧ w.hasObject o = false ∧ cause = .unknownObject o := by
  have hcarried := listsAll_inventoryTree hs ha
  unfold hasLight
  cases hscene : w.scene s.currentScene with
  | error cause => exact .inl (World.scene_eq_error.mp hscene)
  | ok sc =>
    rw [World.scene_eq_ok] at hscene
    rw [ok_bind]
    by_cases hnatural : sc.naturalLight = true
    · rw [if_pos hnatural]
      exact iff_of_true rfl (.inl ⟨sc, hscene, hnatural⟩)
    · rw [if_neg hnatural]
      -- the scene gives none, so that the search among the things carried decides
      have hfinds := anyShines_finds s w (s.inventoryTree.map (·.1))
      cases hshines : s.anyShines w (s.inventoryTree.map (·.1)) with
      | error cause =>
        rw [hshines] at hfinds
        obtain ⟨o, ho, hunknown⟩ := hfinds
        exact .inr ⟨o, (hcarried.ids o).mp ho, hunknown⟩
      | ok found =>
        rw [hshines] at hfinds
        refine hfinds.trans ?_
        constructor
        · rintro ⟨o, ho, obj, hobj, hlamp, hon⟩
          exact .inr ⟨o, obj, hobj, hlamp, (hcarried.ids o).mp ho, hon⟩
        · rintro (⟨sc', hsc', hlit⟩ | ⟨o, obj, hobj, hlamp, hroot, hon⟩)
          · rw [hscene] at hsc'
            obtain rfl := Option.some.inj hsc'
            exact (hnatural hlit).elim
          · exact ⟨o, (hcarried.ids o).mpr hroot, obj, hobj, hlamp, hon⟩

/-- **Views of the contents.** With one holder at most for every object and nothing inside itself,
the tree of every scene and that of the things carried list exactly the objects that end up there,
each once and with its container. So an object is present exactly when one of the two trees lists
it, and there is light exactly when the scene has its own or a light source is on that ends up with
the player. -/
theorem views_agree (hs : s.OneHolder) (ha : s.Acyclic) :
    (∀ scene, s.ListsAll (.scene scene) (s.sceneTree scene)) ∧
    s.ListsAll .inventory s.inventoryTree ∧
    (∀ o, s.isPresent o = true ↔
      o ∈ s.inventoryTree.map (·.1) ∨ o ∈ (s.sceneTree s.currentScene).map (·.1)) ∧
    ∀ w : World,
      match s.hasLight w with
      | .ok lit => lit = true ↔ s.Lit w
      | .error cause =>
        (w.hasScene s.currentScene = false ∧ cause = .unknownScene s.currentScene) ∨
          ∃ o, s.rootLocation o = .inventory ∧ w.hasObject o = false ∧
            cause = .unknownObject o :=
  ⟨listsAll_sceneTree hs ha, listsAll_inventoryTree hs ha, fun _ => isPresent_iff hs ha,
    hasLight_finds hs ha⟩

end GameState

open Game

/-- In the attic the anvil is two containers deep, and the lamp gives light from inside the
sack. -/
theorem attic_views : ∃ w g, World.compile attic = .ok w ∧ Game.new w {} = .ok g ∧
    g.state.OneHolder ∧ g.state.Acyclic ∧ ("anvil", some "box") ∈ g.state.sceneTree "attic" ∧
    g.state.rootLocation "anvil" = .scene "attic" ∧
    g.state.locationOf "anvil" = .container "box" ∧ g.state.isPresent "lamp" = true ∧
    g.state.hasLight g.world = .ok true ∧ g.state.Lit g.world := by
  have hcheck : begun attic (fun g =>
      decide (("anvil", some "box") ∈ g.state.sceneTree "attic" ∧
        "lamp" ∈ g.state.inventoryTree.map (·.1) ∧
        (g.state.hasLight g.world).toOption = some true)) = true := by
    decide +kernel
  obtain ⟨w, g, hw, hg, hstate⟩ := exists_of_begun hcheck
  rw [decide_eq_true_iff, toOption_eq_some] at hstate
  obtain ⟨hanvil, hlamp, hlight⟩ := hstate
  have hplaced : WellPlaced g.world g.state := (reached (World.coherent_of_compile hw) hg []).2.1
  obtain ⟨hscenes, hcarried, hpresent, hlit⟩ := views_agree hplaced.single hplaced.acyclic
  have hlit := hlit g.world
  rw [hlight] at hlit
  exact ⟨w, g, hw, hg, hplaced.single, hplaced.acyclic, hanvil,
    ((hscenes "attic").ids "anvil").mp (List.mem_map_of_mem hanvil),
    (hscenes "attic").holder _ _ hanvil, (hpresent "lamp").mpr (.inl hlamp), hlight,
    hlit.mp rfl⟩

/-! ## Weights -/

/-- **Weights.** With one holder at most for every object, nothing inside itself and nothing unknown
in any holder, the way into every object comes to an end, and its weight follows the recursion over
its contents: it is the sum of the weights of the object and of everything that has it around,
cut off once at the largest number. So is the load of a place the sum of the weights of everything
that has the place among its holders. -/
theorem GameState.weights_exact {s : GameState} {w : World} (hs : s.OneHolder) (ha : s.Acyclic)
    (hknown : ∀ p o, s.Holds p o → w.hasObject o = true) :
    (∀ o, w.hasObject o = true →
      Acc s.Inside o ∧
      s.totalWeight w o = (do
        let obj ← w.object o
        (s.contentsOf o).foldlM (fun total x => return addCapped total (← s.totalWeight w x))
          (min counterLimit obj.weight)) ∧
      s.totalWeight w o =
        .ok (min counterLimit (∑ x ∈ w.ids with x = o ∨ o ∈ s.enclosing x, w.weightOf x))) ∧
    ∀ p, p ≠ .nowhere → s.loadOf w p =
      .ok (min counterLimit (∑ x ∈ w.ids with p ∈ s.holdersOf x, w.weightOf x)) :=
  ⟨fun o ho => ⟨ha.acc o, totalWeight_unfold hs ha hknown ho, totalWeight_eq_sum hs ha hknown ho⟩,
    fun _ hp => loadOf_eq_sum hs ha hknown hp⟩

/-- The trunk in the attic weighs as much as anything can, and what is in it weighs more. -/
theorem attic_weights : ∃ w g, World.compile attic = .ok w ∧ Game.new w {} = .ok g ∧
    g.state.OneHolder ∧ g.state.Acyclic ∧
    (∀ p o, g.state.Holds p o → g.world.hasObject o = true) ∧
    g.state.totalWeight g.world "trunk" = .ok counterLimit ∧
    counterLimit ≤ (∑ x ∈ g.world.ids with x = "trunk" ∨ "trunk" ∈ g.state.enclosing x,
      g.world.weightOf x) ∧
    g.state.loadOf g.world .inventory = .ok 3 ∧
    (∑ x ∈ g.world.ids with .inventory ∈ g.state.holdersOf x, g.world.weightOf x) = 3 := by
  have hcheck : begun attic (fun g => g.world.hasObject "trunk" &&
      decide ((g.state.totalWeight g.world "trunk").toOption = some counterLimit ∧
        (g.state.loadOf g.world .inventory).toOption = some 3)) = true := by
    decide +kernel
  obtain ⟨w, g, hw, hg, hstate⟩ := exists_of_begun hcheck
  rw [Bool.and_eq_true, decide_eq_true_iff, toOption_eq_some, toOption_eq_some] at hstate
  obtain ⟨htrunk, hweight, hload⟩ := hstate
  have hplaced : WellPlaced g.world g.state := (reached (World.coherent_of_compile hw) hg []).2.1
  obtain ⟨hweights, hloads⟩ := weights_exact hplaced.single hplaced.acyclic hplaced.known
  have hsum := (hweights "trunk" htrunk).2.2
  have hcarried := hloads .inventory Place.noConfusion
  rw [hweight] at hsum
  rw [hload] at hcarried
  have hlimit : 3 < counterLimit := by decide
  have hsum := Except.ok.inj hsum
  have hcarried := Except.ok.inj hcarried
  refine ⟨w, g, hw, hg, hplaced.single, hplaced.acyclic, hplaced.known, hweight, ?_, hload, ?_⟩
  · exact min_eq_left_iff.mp hsum.symm
  · omega

end TextAdventure
