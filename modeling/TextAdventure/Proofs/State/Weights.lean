import Mathlib.Algebra.BigOperators.Group.Finset.Basic
import Mathlib.Algebra.GroupWithZero.Nat
import TextAdventure.Proofs.State.Placed
import TextAdventure.State.Weight

/-!
# Weights

What the recursion over the contents finds. With one holder at most for every object and nothing
inside itself it ends with the number of containers as depth, and every deeper recursion gives the
same (`weightWithin_of_nested`, `totalWeight_unfold`): the weight of an object is the sum over the
object and all that is inside it, at any depth, cut off once at the largest number. So is the load
of a place (`totalWeight_eq_sum`, `loadOf_eq_sum`).

The sums are over sets of ids: `subtree o` is `o` with everything inside it, `below p` is
everything in the place `p`.
-/

namespace TextAdventure

open Std Relation

/-- The ids of the objects of a world. -/
def World.ids (w : World) : Finset Id := w.objects.keys.toFinset

/-- What an object weighs alone. -/
def World.weightOf (w : World) (id : Id) : Nat := (w.objects[id]?).elim 0 (·.weight)

theorem World.mem_ids {w : World} {id : Id} : id ∈ w.ids ↔ w.hasObject id = true := by
  unfold ids hasObject
  rw [List.mem_toFinset, ExtTreeMap.mem_keys, ExtTreeMap.contains_iff_mem]

namespace GameState

variable {s : GameState} {w : World} {o x y : Id} {p : Place}

/-- The holders of an object, innermost first. -/
def holdersOf (s : GameState) (o : Id) : List Place := (o :: s.enclosing o).map s.locationOf

/-- An object and everything inside it, at any depth. -/
def subtree (s : GameState) (w : World) (o : Id) : Finset Id :=
  w.ids.filter fun x => x = o ∨ o ∈ s.enclosing x

/-- Everything in a place, at any depth. -/
def below (s : GameState) (w : World) (p : Place) : Finset Id :=
  w.ids.filter fun x => p ∈ s.holdersOf x

/-- The weight of a set of objects, counted without limit. -/
def sumOfWeights (w : World) (ids : Finset Id) : Nat := ∑ x ∈ ids, w.weightOf x

/-! ## Membership -/

theorem OneHolder.locationOf_eq_iff (hs : s.OneHolder) (hp : p ≠ .nowhere) :
    s.locationOf o = p ↔ s.Holds p o := by
  constructor
  · rintro rfl
    exact holds_locationOf hp
  · exact hs.locationOf_eq

theorem OneHolder.rightUnique (hs : s.OneHolder) : Relator.RightUnique s.Inside :=
  fun _ _ _ h h' => Place.container.inj (hs _ _ _ h h')

theorem mem_holdersOf (hs : s.OneHolder) (hp : p ≠ .nowhere) :
    p ∈ s.holdersOf o ↔ ∃ y, ReflTransGen s.Inside o y ∧ s.Holds p y := by
  unfold holdersOf
  rw [List.mem_map]
  constructor
  · rintro ⟨y, hy, hloc⟩
    refine ⟨y, ?_, (hs.locationOf_eq_iff hp).mp hloc⟩
    rcases List.mem_cons.mp hy with rfl | hy
    · exact .refl
    · exact ((mem_enclosing_iff hs).mp hy).to_reflTransGen
  · rintro ⟨y, hy, hholds⟩
    refine ⟨y, ?_, (hs.locationOf_eq_iff hp).mpr hholds⟩
    rcases reflTransGen_iff_eq_or_transGen.mp hy with rfl | hy
    · exact List.mem_cons_self ..
    · exact List.mem_cons_of_mem _ ((mem_enclosing_iff hs).mpr hy)

theorem mem_subtree (hs : s.OneHolder) :
    x ∈ s.subtree w o ↔ w.hasObject x = true ∧ ReflTransGen s.Inside x o := by
  unfold subtree
  rw [Finset.mem_filter, World.mem_ids, mem_enclosing_iff hs, reflTransGen_iff_eq_or_transGen,
    eq_comm (a := x)]

theorem mem_below (hs : s.OneHolder) (hp : p ≠ .nowhere) :
    x ∈ s.below w p ↔
      w.hasObject x = true ∧ ∃ y, ReflTransGen s.Inside x y ∧ s.Holds p y := by
  unfold below
  rw [Finset.mem_filter, World.mem_ids, mem_holdersOf hs hp]

/-! ## Sums over what a place directly holds -/

theorem nodup_contentsAt : (s.contentsAt p).Nodup := by
  cases p with
  | nowhere => exact List.nodup_nil
  | _ => exact nodup_toList _

/-- Of two objects in one place neither is inside the other, unless the place is a container that
is inside itself. -/
theorem eq_of_holds (hs : s.OneHolder) (hp : ∀ c, p = .container c → ¬ TransGen s.Inside c c)
    (hx : s.Holds p x) (hy : s.Holds p y) (h : ReflTransGen s.Inside x y) : x = y := by
  rcases reflTransGen_iff_eq_or_transGen.mp h with rfl | h
  · rfl
  · obtain ⟨holder, hin, hrest⟩ := TransGen.head'_iff.mp h
    obtain rfl := hs x _ _ hx hin
    exact (hp holder rfl (.tail' hrest hy)).elim

/-- Nothing is inside two objects of one place: one of the two would be inside the other. -/
theorem eq_of_reaches_both (hs : s.OneHolder)
    (hp : ∀ c, p = .container c → ¬ TransGen s.Inside c c) (hx : s.Holds p x)
    (hy : s.Holds p y) {z : Id} (hzx : ReflTransGen s.Inside z x)
    (hzy : ReflTransGen s.Inside z y) : x = y := by
  rcases hzx.total_of_right_unique hs.rightUnique hzy with hxy | hyx
  · exact eq_of_holds hs hp hx hy hxy
  · exact (eq_of_holds hs hp hy hx hyx).symm

theorem below_eq_biUnion (hs : s.OneHolder) (hp : p ≠ .nowhere) :
    s.below w p = (s.contentsAt p).toFinset.biUnion (s.subtree w) := by
  ext x
  rw [mem_below hs hp, Finset.mem_biUnion]
  constructor
  · rintro ⟨hx, y, hxy, hy⟩
    exact ⟨y, List.mem_toFinset.mpr hy, (mem_subtree hs).mpr ⟨hx, hxy⟩⟩
  · rintro ⟨y, hy, hx⟩
    obtain ⟨hx, hxy⟩ := (mem_subtree hs).mp hx
    exact ⟨hx, y, hxy, List.mem_toFinset.mp hy⟩

/-- The load of a place is the sum of what its objects weigh with their contents. -/
theorem sumOfWeights_below (hs : s.OneHolder) (ha : s.Acyclic) (hp : p ≠ .nowhere) :
    sumOfWeights w (s.below w p)
      = ((s.contentsAt p).map fun y => sumOfWeights w (s.subtree w y)).sum := by
  have hdisj : ((s.contentsAt p).toFinset : Set Id).PairwiseDisjoint (s.subtree w) := by
    intro x hx y hy hne
    have hx := List.mem_toFinset.mp (Finset.mem_coe.mp hx)
    have hy := List.mem_toFinset.mp (Finset.mem_coe.mp hy)
    refine Finset.disjoint_left.mpr fun z hzx hzy => hne ?_
    exact eq_of_reaches_both hs (fun c _ => ha c) hx hy ((mem_subtree hs).mp hzx).2
      ((mem_subtree hs).mp hzy).2
  rw [below_eq_biUnion hs hp, ← List.sum_toFinset _ nodup_contentsAt]
  exact Finset.sum_biUnion hdisj

/-- An object weighs what it weighs alone and what it holds. -/
theorem sumOfWeights_subtree (hs : s.OneHolder) (ha : s.Acyclic) (ho : w.hasObject o = true) :
    sumOfWeights w (s.subtree w o)
      = w.weightOf o + sumOfWeights w (s.below w (.container o)) := by
  have hnot : o ∉ s.below w (.container o) := by
    intro hmem
    obtain ⟨-, y, hoy, hy⟩ := (mem_below hs Place.noConfusion).mp hmem
    exact ha o (.tail' hoy hy)
  have hinsert : s.subtree w o = insert o (s.below w (.container o)) := by
    ext x
    rw [mem_subtree hs, Finset.mem_insert, mem_below hs Place.noConfusion,
      reflTransGen_iff_eq_or_transGen, TransGen.tail'_iff]
    constructor
    · rintro ⟨hx, rfl | h⟩
      · exact .inl rfl
      · exact .inr ⟨hx, h⟩
    · rintro (rfl | ⟨hx, h⟩)
      · exact ⟨ho, .inl rfl⟩
      · exact ⟨hx, .inr h⟩
  rw [hinsert]
  exact Finset.sum_insert hnot

/-! ## The recursion -/

/-- Cutting off at every step of a sum is cutting off once at its end. -/
theorem foldlM_addCapped {f : Id → Except WorldError Nat} {v : Id → Nat} {ids : List Id}
    {total : Nat} (h : ∀ x ∈ ids, f x = .ok (min counterLimit (v x))) :
    ids.foldlM (fun total x => return addCapped total (← f x)) (min counterLimit total)
      = .ok (min counterLimit (total + (ids.map v).sum)) := by
  induction ids generalizing total with
  | nil => simp [pure, Except.pure]
  | cons x rest ih =>
    have hx := h x (List.mem_cons_self ..)
    have hstep : addCapped (min counterLimit total) (min counterLimit (v x))
        = min counterLimit (total + v x) := by
      unfold addCapped
      omega
    rw [List.foldlM_cons, hx, ok_bind]
    show List.foldlM _ (addCapped _ _) rest = _
    rw [hstep, ih fun y hy => h y (List.mem_cons_of_mem _ hy), List.map_cons, List.sum_cons,
      Nat.add_assoc]

theorem weightOf_eq {obj : Object} (hobj : w.objects[o]? = some obj) :
    w.weightOf o = obj.weight := by
  unfold World.weightOf
  rw [hobj]
  rfl

section Recursion

variable (hs : s.OneHolder) (ha : s.Acyclic) (hknown : ∀ p o, s.Holds p o → w.hasObject o = true)

include hs ha hknown

/-- A recursion that is as deep as the contents are nested ends with the right weight. -/
theorem weightWithin_of_nested {depth : Nat} (ho : w.hasObject o = true)
    (hdeep : s.NestedWithin depth o) :
    s.weightWithin w depth o = .ok (min counterLimit (sumOfWeights w (s.subtree w o))) := by
  obtain ⟨obj, hobj⟩ := World.hasObject_iff.mp ho
  rw [sumOfWeights_subtree hs ha ho, sumOfWeights_below hs ha Place.noConfusion, weightOf_eq hobj]
  induction depth generalizing o obj with
  | zero =>
    have hempty : s.contentsOf o = [] := List.eq_nil_iff_forall_not_mem.mpr hdeep
    have hcontents : s.contentsAt (.container o) = [] := hempty
    unfold weightWithin
    simp only [World.object_eq_ok.mpr hobj, ok_bind, hempty, hcontents, List.isEmpty_nil, if_true]
    rfl
  | succ depth ih =>
    have hinner : ∀ x ∈ s.contentsOf o, s.weightWithin w depth x
        = .ok (min counterLimit (sumOfWeights w (s.subtree w x))) := by
      intro x hx
      have hx' : w.hasObject x = true := hknown (.container o) x hx
      obtain ⟨inner, hinner⟩ := World.hasObject_iff.mp hx'
      rw [ih hx' (hdeep x hx) inner hinner, sumOfWeights_subtree hs ha hx',
        sumOfWeights_below hs ha Place.noConfusion, weightOf_eq hinner]
    unfold weightWithin
    simp only [World.object_eq_ok.mpr hobj, ok_bind]
    exact foldlM_addCapped hinner

/-- The weight is the sum of the weights of the object and of everything inside it. -/
theorem totalWeight_eq_sum (ho : w.hasObject o = true) :
    s.totalWeight w o = .ok (min counterLimit (sumOfWeights w (s.subtree w o))) :=
  weightWithin_of_nested hs ha hknown ho (ha.nestedWithin le_rfl o)

/-- The weight follows the recursion over the contents, whatever their depth. -/
theorem totalWeight_unfold (ho : w.hasObject o = true) :
    s.totalWeight w o = (do
      let obj ← w.object o
      (s.contentsOf o).foldlM (fun total x => return addCapped total (← s.totalWeight w x))
        (min counterLimit obj.weight)) := by
  calc s.totalWeight w o
      = .ok (min counterLimit (sumOfWeights w (s.subtree w o))) :=
        totalWeight_eq_sum hs ha hknown ho
    _ = s.weightWithin w (s.containers.size + 1) o :=
        (weightWithin_of_nested hs ha hknown ho (ha.nestedWithin (Nat.le_succ _) o)).symm
    _ = _ := rfl

/-- The load of a place is the sum of the weights of everything in it, at any depth. -/
theorem loadOf_eq_sum (hp : p ≠ .nowhere) :
    s.loadOf w p = .ok (min counterLimit (sumOfWeights w (s.below w p))) := by
  have hitems : ∀ x ∈ s.contentsAt p, s.totalWeight w x
      = .ok (min counterLimit (sumOfWeights w (s.subtree w x))) :=
    fun x hx => totalWeight_eq_sum hs ha hknown (hknown p x hx)
  have hzero : (0 : Nat) = min counterLimit 0 := rfl
  rw [sumOfWeights_below hs ha hp, ← Nat.zero_add (List.sum _)]
  unfold loadOf
  rw [hzero, foldlM_addCapped hitems]
  rfl

end Recursion

/-! ## Well-placed states -/

/-- Any recursion as deep as there are containers ends, with the sum of the weights of the object
and of everything inside it. -/
theorem weightWithin_eq (hs : WellPlaced w s) (ho : w.hasObject o = true) {depth : Nat}
    (hdepth : s.containers.size ≤ depth) :
    s.weightWithin w depth o = .ok (min counterLimit (sumOfWeights w (s.subtree w o))) :=
  weightWithin_of_nested hs.single hs.acyclic hs.known ho (hs.acyclic.nestedWithin hdepth o)

theorem totalWeight_eq (hs : WellPlaced w s) (ho : w.hasObject o = true) :
    s.totalWeight w o = .ok (min counterLimit (sumOfWeights w (s.subtree w o))) :=
  totalWeight_eq_sum hs.single hs.acyclic hs.known ho

theorem loadOf_eq (hs : WellPlaced w s) (hp : p ≠ .nowhere) :
    s.loadOf w p = .ok (min counterLimit (sumOfWeights w (s.below w p))) :=
  loadOf_eq_sum hs.single hs.acyclic hs.known hp

end GameState

end TextAdventure
