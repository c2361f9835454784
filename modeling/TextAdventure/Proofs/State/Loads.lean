import Mathlib.Algebra.Order.BigOperators.Group.Finset
import TextAdventure.Proofs.State.Weights

/-!
# Loads

How the load of every place changes when an object is taken out of its holder and put somewhere
else. Taking it out adds to no load (`loadOf_unplace_le`) and leaves its own weight
(`totalWeight_unplace`). Putting it into a place adds its weight to the load of that place and of
every holder around it, at any depth, and changes no other load (`loadOf_added`,
`loadOf_added_of_not_mem`).
-/

namespace TextAdventure.GameState

open Std Relation

variable {w : World} {s t : GameState} {o x y : Id} {p q : Place}

/-- A place and the holders around it: those whose load counts what is put into the place. -/
def around (s : GameState) : Place → List Place
  | .container c => .container c :: s.holdersOf c
  | p => [p]

/-- An object in the place is in all of these, and in no other. -/
theorem mem_around (hs : s.OneHolder) (hq : q ≠ .nowhere) : q ∈ s.around p ↔
    q = p ∨ ∃ c, p = .container c ∧ ∃ y, ReflTransGen s.Inside c y ∧ s.Holds q y := by
  cases p with
  | container c =>
    unfold around
    rw [List.mem_cons, mem_holdersOf hs hq]
    constructor
    · rintro (rfl | h)
      · exact .inl rfl
      · exact .inr ⟨c, rfl, h⟩
    · rintro (rfl | ⟨d, hd, h⟩)
      · exact .inl rfl
      · rw [Place.container.inj hd]
        exact .inr h
  | _ => simp [around]

/-! ## Frame -/

theorem SameHolders.below_eq (h : SameHolders s t) (hs : s.OneHolder) (hp : p ≠ .nowhere) :
    t.below w p = s.below w p := by
  have hinside : t.Inside = s.Inside := by
    funext x c
    exact propext h.holds_iff
  ext x
  rw [mem_below (h.oneHolder hs) hp, mem_below hs hp, hinside]
  simp only [h.holds_iff]

/-- Only the holders matter for the load of a place. -/
theorem SameHolders.loadOf_eq (h : SameHolders s t) (hs : WellPlaced w s) (hp : p ≠ .nowhere) :
    t.loadOf w p = s.loadOf w p := by
  rw [GameState.loadOf_eq hs hp, GameState.loadOf_eq (h.wellPlaced hs) hp,
    h.below_eq hs.single hp]

/-! ## Taking out -/

/-- Taking an object out adds to no load. -/
theorem loadOf_unplace_le (hs : WellPlaced w s) (hp : p ≠ .nowhere) :
    ∃ load load', s.loadOf w p = .ok load ∧ (s.unplace o).loadOf w p = .ok load' ∧
      load' ≤ load := by
  refine ⟨_, _, loadOf_eq hs hp, loadOf_eq hs.unplace hp, ?_⟩
  have hsub : (s.unplace o).below w p ⊆ s.below w p := by
    intro x hx
    obtain ⟨hx, y, hxy, hy⟩ := (mem_below hs.single.unplace hp).mp hx
    refine (mem_below hs.single hp).mpr ⟨hx, y, ?_, (holds_unplace_iff.mp hy).1⟩
    exact ReflTransGen.mono (fun _ _ hin => (holds_unplace_iff.mp hin).1) _ _ hxy
  have hsum : sumOfWeights w ((s.unplace o).below w p) ≤ sumOfWeights w (s.below w p) :=
    Finset.sum_le_sum_of_subset hsub
  omega

/-- An object weighs the same when it has been taken out. -/
theorem totalWeight_unplace (hs : WellPlaced w s) (ho : w.hasObject o = true) :
    (s.unplace o).totalWeight w o = s.totalWeight w o := by
  have hsubtree : (s.unplace o).subtree w o = s.subtree w o := by
    ext x
    rw [mem_subtree hs.single.unplace, mem_subtree hs.single, reflTransGen_iff_eq_or_transGen,
      reflTransGen_iff_eq_or_transGen, transGen_unplace_iff hs.single hs.acyclic]
  rw [totalWeight_eq hs.unplace ho, totalWeight_eq hs ho, hsubtree]

/-! ## Putting in -/

section Added

variable (hs : WellPlaced w s) (hout : ∀ q, ¬ s.Holds q o) (ho : w.hasObject o = true)
  (hplace : w.HasPlace p)
  (hfree : ∀ holder, p = .container holder → ¬ ReflTransGen s.Inside holder o)

include hfree in
/-- What is around an object after another one has been put somewhere. -/
theorem reflTransGen_added : ReflTransGen (s.added o p).Inside x y ↔
    ReflTransGen s.Inside x y ∨ (ReflTransGen s.Inside x o ∧
      ∃ holder, p = .container holder ∧ ReflTransGen s.Inside holder y) := by
  have hold : ReflTransGen s.Inside ≤ ReflTransGen (s.added o p).Inside :=
    ReflTransGen.mono fun _ _ hin => holds_added.mpr (.inl hin)
  constructor
  · intro h
    cases p with
    | container holder =>
      rcases reflTransGen_iff_eq_or_transGen.mp h with rfl | h
      · exact .inl .refl
      · rcases transGen_added (hfree holder rfl) h with hbefore | ⟨hto, hfrom⟩
        · exact .inl hbefore.to_reflTransGen
        · exact .inr ⟨hto, holder, rfl, hfrom⟩
    | _ =>
      refine .inl (ReflTransGen.mono (fun a b hin => ?_) _ _ h)
      rcases holds_added.mp hin with hbefore | ⟨-, hp, -⟩
      · exact hbefore
      · cases hp
  · rintro (h | ⟨hto, holder, rfl, hfrom⟩)
    · exact hold _ _ h
    · have hin : (s.added o (.container holder)).Inside o holder :=
        holds_added.mpr (.inr ⟨Place.noConfusion, rfl, rfl⟩)
      exact (hold _ _ hto).trans (.head hin (hold _ _ hfrom))

include hs hout hfree ho in
/-- What a place has in it afterwards: what it had, and what was put in when the place is one of
those around the destination. -/
theorem mem_below_added (hq : q ≠ .nowhere) : x ∈ (s.added o p).below w q ↔
    x ∈ s.below w q ∨ (q ∈ s.around p ∧ x ∈ s.subtree w o) := by
  rw [mem_below (hs.single.added hout) hq, mem_below hs.single hq, mem_subtree hs.single,
    mem_around hs.single hq]
  simp only [reflTransGen_added hfree, holds_added]
  constructor
  · rintro ⟨hx, y, hxy | ⟨hxo, holder, rfl, hy⟩, hq | ⟨-, rfl, rfl⟩⟩
    · exact .inl ⟨hx, y, hxy, hq⟩
    · exact .inr ⟨.inl rfl, hx, hxy⟩
    · exact .inr ⟨.inr ⟨holder, rfl, y, hy, hq⟩, hx, hxo⟩
    · exact .inr ⟨.inl rfl, hx, hxo⟩
  · rintro (⟨hx, y, hxy, hy⟩ | ⟨rfl | ⟨holder, rfl, y, hy, hq⟩, hx, hxo⟩)
    · exact ⟨hx, y, .inl hxy, .inl hy⟩
    · exact ⟨hx, o, .inl hxo, .inr ⟨hq, rfl, rfl⟩⟩
    · exact ⟨hx, y, .inr ⟨hxo, holder, rfl, hy⟩, .inl hq⟩

include hs hout hfree in
/-- What is put in is in none of the places around the destination already. -/
theorem disjoint_below_subtree (hq : q ≠ .nowhere) (hmem : q ∈ s.around p) :
    Disjoint (s.below w q) (s.subtree w o) := by
  refine Finset.disjoint_left.mpr fun x hbelow hsub => ?_
  obtain ⟨-, y, hxy, hy⟩ := (mem_below hs.single hq).mp hbelow
  have hxo := ((mem_subtree hs.single).mp hsub).2
  rcases hxy.total_of_right_unique hs.single.rightUnique hxo with hyo | hoy
  · rcases reflTransGen_iff_eq_or_transGen.mp hyo with rfl | hyo
    · exact hout q hy
    · -- then the place is inside the object, and so is the destination
      obtain ⟨holder, hin, hholder⟩ := TransGen.head'_iff.mp hyo
      obtain rfl := hs.single y _ _ hy hin
      rcases (mem_around hs.single hq).mp hmem with rfl | ⟨c, rfl, z, hcz, hz⟩
      · exact hfree holder rfl hholder
      · exact hfree c rfl ((hcz.tail hz).trans hholder)
  · rcases reflTransGen_iff_eq_or_transGen.mp hoy with rfl | hoy
    · exact hout q hy
    · obtain ⟨holder, hin, -⟩ := TransGen.head'_iff.mp hoy
      exact hout _ hin

include hs hout ho hplace hfree

/-- Putting an object into a place adds its weight to the load of the place and of every holder
around it. -/
theorem loadOf_added (hq : q ≠ .nowhere) (hmem : q ∈ s.around p) {load weight : Nat}
    (hload : s.loadOf w q = .ok load) (hweight : s.totalWeight w o = .ok weight) :
    (s.added o p).loadOf w q = .ok (addCapped load weight) := by
  have hunion : (s.added o p).below w q = s.below w q ∪ s.subtree w o := by
    ext x
    rw [mem_below_added hs hout ho hfree hq, Finset.mem_union]
    simp only [hmem, true_and]
  have hsum : sumOfWeights w ((s.added o p).below w q)
      = sumOfWeights w (s.below w q) + sumOfWeights w (s.subtree w o) := by
    rw [hunion]
    exact Finset.sum_union (disjoint_below_subtree hs hout hfree hq hmem)
  rw [loadOf_eq hs hq] at hload
  rw [totalWeight_eq hs ho] at hweight
  rw [loadOf_eq (hs.added hout ho hplace hfree) hq, hsum, ← Except.ok.inj hload,
    ← Except.ok.inj hweight]
  -- both sides are cut off at the same number
  congr 1
  unfold addCapped
  omega

/-- It changes no other load. -/
theorem loadOf_added_of_not_mem (hq : q ≠ .nowhere) (hmem : q ∉ s.around p) :
    (s.added o p).loadOf w q = s.loadOf w q := by
  have hsame : (s.added o p).below w q = s.below w q := by
    ext x
    rw [mem_below_added hs hout ho hfree hq]
    simp only [hmem, false_and, or_false]
  rw [loadOf_eq hs hq, loadOf_eq (hs.added hout ho hplace hfree) hq, hsame]

end Added

end TextAdventure.GameState
