import Mathlib.Algebra.BigOperators.Group.List.Basic
import Mathlib.Algebra.GroupWithZero.Nat
import Mathlib.Algebra.Order.BigOperators.Group.List
import TextAdventure.Play.Movement
import TextAdventure.Proofs.World.Resolved

/-!
# What there is to earn

Points are given out for what a verb does to an object, and for the first arrival in a scene; these
are the `Merit`s. A world `Offers` points for a merit, several exits into one scene perhaps several
of them. The highest score counts every merit once, with the most that is offered for it, so that
different merits never earn more (`sum_points_le`).
-/

namespace TextAdventure

open Std

/-- What points are given out for. -/
inductive Merit where
  | interaction (object : Id) (verb : Verb)
  | arrival (scene : Id)
deriving DecidableEq, Repr

/-- The flag by which the points for a merit are given out once. -/
def Merit.guardFlag : Merit → Flag
  | .interaction object verb => verb.scoreGuard object
  | .arrival scene => .exitScored scene

/-- The world has the points for the merit: an interaction with that score, or an exit into the
scene with that score. -/
def World.Offers (w : World) : Merit → Int → Prop
  | .interaction object verb, points =>
    ∃ o i, w.objects[object]? = some o ∧ o.interactions[verb]? = some i ∧ i.score = points
  | .arrival scene, points =>
    ∃ (here : Id) (sc : Scene), w.scenes[here]? = some sc ∧ ∃ e ∈ sc.exits,
      e.destination = scene ∧ points = (min e.score exitPointsLimit : Nat)

/-! ## Sums -/

/-- Cutting off at every step of a sum is cutting off once at its end. -/
theorem foldl_addCapped (xs : List Nat) (total : Nat) :
    xs.foldl addCapped (min counterLimit total) = min counterLimit (total + xs.sum) := by
  induction xs generalizing total with
  | nil => rfl
  | cons n rest ih =>
    have hstep : addCapped (min counterLimit total) n = min counterLimit (total + n) := by
      unfold addCapped
      omega
    rw [List.foldl_cons, hstep, ih, List.sum_cons, Nat.add_assoc]

theorem values_eq_map {α β : Type} [Ord α] [TransOrd α] {m : ExtTreeMap α β} :
    m.values = m.toList.map (·.2) := by
  obtain ⟨inner⟩ := m
  induction inner with
  | mk t =>
    show t.inner.values = (DTreeMap.Internal.Impl.Const.toList t.inner).map (·.2)
    rw [DTreeMap.Internal.Impl.values_eq_map_snd,
      DTreeMap.Internal.Impl.Const.toList_eq_toListModel_map, List.map_map]
    rfl

theorem mem_values {α β : Type} [Ord α] [TransOrd α] [LawfulEqOrd α] {m : ExtTreeMap α β} {k : α}
    {v : β} (h : m[k]? = some v) : v ∈ m.values := by
  rw [values_eq_map]
  exact List.mem_map.mpr ⟨(k, v), ExtTreeMap.mem_toList_iff_getElem?_eq_some.mpr h, rfl⟩

/-- Where what is kept under each key looks the same, the values look the same in their order. -/
theorem map_values_congr {α β γ : Type} [Ord α] [TransOrd α] [LawfulEqOrd α]
    {m m' : ExtTreeMap α β} {f : β → γ} (h : ∀ k : α, m'[k]?.map f = m[k]?.map f) :
    m'.values.map f = m.values.map f := by
  have hvalues : ∀ m : ExtTreeMap α β, m.values.map f = (m.map fun _ => f).values := by
    intro m
    rw [values_eq_map, values_eq_map, ExtTreeMap.toList_map, List.map_map, List.map_map]
    rfl
  have hmap : m'.map (fun _ => f) = m.map fun _ => f := by
    refine ExtTreeMap.ext_getElem? fun k => ?_
    rw [ExtTreeMap.getElem?_map, ExtTreeMap.getElem?_map]
    exact h k
  rw [hvalues, hvalues, hmap]

/-- Elements with different keys, each of which has an entry of at least its value under its key,
add up to no more than the entries. -/
theorem sum_le_of_entries {α κ : Type} [DecidableEq κ] {key : α → κ} {value : α → Nat}
    {entries : List (κ × Nat)} {xs : List α} (hkeys : (xs.map key).Nodup)
    (hentry : ∀ x ∈ xs, ∃ n, (key x, n) ∈ entries ∧ value x ≤ n) :
    (xs.map value).sum ≤ (entries.map (·.2)).sum := by
  -- on the elements; the entry of the first one is taken out, which leaves those of the others
  induction xs generalizing entries with
  | nil => exact Nat.zero_le _
  | cons x rest ih =>
    obtain ⟨n, hn, hle⟩ := hentry x (List.mem_cons_self ..)
    rw [List.map_cons, List.nodup_cons] at hkeys
    have hrest : (rest.map value).sum ≤ ((entries.erase (key x, n)).map (·.2)).sum := by
      refine ih hkeys.2 fun y hy => ?_
      obtain ⟨n', hn', hle'⟩ := hentry y (List.mem_cons_of_mem _ hy)
      refine ⟨n', (List.mem_erase_of_ne ?_).mpr hn', hle'⟩
      intro heq
      exact hkeys.1 ((Prod.mk.inj heq).1 ▸ List.mem_map_of_mem hy)
    have hperm := ((List.perm_cons_erase hn).map (·.2)).sum_eq
    simp only [List.map_cons, List.sum_cons] at hperm ⊢
    omega

/-! ## The best exits -/

section Exits

variable {exits : List Exit} {best : ExtTreeMap Id Nat} {scene : Id} {n : Nat}

/-- One more exit is taken into account. -/
def betterExit (best : ExtTreeMap Id Nat) (e : Exit) : ExtTreeMap Id Nat :=
  best.insert e.destination (max e.score (best.getD e.destination 0))

theorem getElem?_betterExit {e : Exit} (h : best[scene]? = some n) :
    ∃ n', (betterExit best e)[scene]? = some n' ∧ n ≤ n' := by
  unfold betterExit
  rw [ExtTreeMap.getElem?_insert]
  split
  · rename_i heq
    obtain rfl := LawfulEqCmp.eq_of_compare heq
    refine ⟨_, rfl, ?_⟩
    rw [ExtTreeMap.getD_eq_getD_getElem?, h]
    exact Nat.le_max_right ..
  · exact ⟨n, h, Nat.le_refl n⟩

/-- The best does not get worse. -/
theorem getElem?_foldl_betterExit (exits : List Exit) (h : best[scene]? = some n) :
    ∃ n', (exits.foldl betterExit best)[scene]? = some n' ∧ n ≤ n' := by
  induction exits generalizing best n with
  | nil => exact ⟨n, h, Nat.le_refl n⟩
  | cons e rest ih =>
    obtain ⟨n', hn', hle⟩ := getElem?_betterExit (e := e) h
    obtain ⟨n'', hn'', hle'⟩ := ih hn'
    exact ⟨n'', hn'', hle.trans hle'⟩

/-- Every exit is worth no more than the best one into its destination. -/
theorem score_le_bestExits {e : Exit} (he : e ∈ exits) :
    ∃ n, (e.destination, n) ∈ (bestExits exits).toList ∧ e.score ≤ n := by
  have hbest : ∀ best : ExtTreeMap Id Nat,
      ∃ n, (exits.foldl betterExit best)[e.destination]? = some n ∧ e.score ≤ n := by
    induction exits with
    | nil => exact (List.not_mem_nil he).elim
    | cons first rest ih =>
      intro best
      rcases List.mem_cons.mp he with rfl | he
      · have hhere : (betterExit best e)[e.destination]?
            = some (max e.score (best.getD e.destination 0)) := by
          unfold betterExit
          rw [ExtTreeMap.getElem?_insert, if_pos ReflCmp.compare_self]
        obtain ⟨n, hn, hle⟩ := getElem?_foldl_betterExit rest hhere
        exact ⟨n, hn, (Nat.le_max_left ..).trans hle⟩
      · exact ih he (betterExit best first)
  obtain ⟨n, hn, hle⟩ := hbest ∅
  exact ⟨n, ExtTreeMap.mem_toList_iff_getElem?_eq_some.mpr hn, hle⟩

end Exits

/-! ## The highest score -/

namespace World

variable {w : World}

/-- The most that is offered for each merit. -/
def earnings (w : World) : List (Merit × Nat) :=
  (w.objects.toList.flatMap fun e =>
      e.2.interactions.toList.map fun i => (.interaction e.1 i.1, i.2.score.toNat))
    ++ (bestExits (w.scenes.values.flatMap (·.exits))).toList.map fun e => (.arrival e.1, e.2)

/-- The highest score counts all earnings, up to the largest number. -/
theorem highestScore_eq :
    highestScore w.scenes w.objects = min counterLimit (w.earnings.map (·.2)).sum := by
  have hearnings : w.earnings.map (·.2) =
      (w.objects.values.flatMap fun o => o.interactions.values.map (·.score.toNat))
        ++ (bestExits (w.scenes.values.flatMap (·.exits))).values := by
    unfold earnings
    simp only [values_eq_map, List.map_append, List.map_flatMap, List.flatMap_map, List.map_map]
    rfl
  rw [hearnings, ← Nat.zero_add (List.sum _), ← foldl_addCapped]
  rfl

/-- Whatever is offered is among the earnings, for at least as much. -/
theorem mem_earnings {merit : Merit} {points : Int} (h : w.Offers merit points) :
    ∃ n, (merit, n) ∈ w.earnings ∧ points.toNat ≤ n := by
  unfold earnings
  cases merit with
  | interaction object verb =>
    obtain ⟨o, i, ho, hi, rfl⟩ := h
    refine ⟨i.score.toNat, List.mem_append_left _ ?_, Nat.le_refl _⟩
    refine List.mem_flatMap.mpr ⟨(object, o), ExtTreeMap.mem_toList_iff_getElem?_eq_some.mpr ho, ?_⟩
    exact List.mem_map.mpr ⟨(verb, i), ExtTreeMap.mem_toList_iff_getElem?_eq_some.mpr hi, rfl⟩
  | arrival scene =>
    obtain ⟨here, sc, hsc, e, he, rfl, rfl⟩ := h
    have hexit : e ∈ w.scenes.values.flatMap (·.exits) :=
      List.mem_flatMap.mpr ⟨sc, mem_values hsc, he⟩
    obtain ⟨n, hn, hle⟩ := score_le_bestExits hexit
    refine ⟨n, List.mem_append_right _ (List.mem_map.mpr ⟨_, hn, rfl⟩), ?_⟩
    rw [Int.toNat_natCast]
    exact (Nat.min_le_left ..).trans hle

/-- **Different merits earn no more than there is to earn.** -/
theorem sum_points_le {α : Type} {merit : α → Merit} {points : α → Int} {xs : List α}
    (hdistinct : (xs.map merit).Nodup) (hoffer : ∀ x ∈ xs, w.Offers (merit x) (points x)) :
    (xs.map fun x => (points x).toNat).sum ≤ (w.earnings.map (·.2)).sum :=
  sum_le_of_entries hdistinct fun x hx => mem_earnings (hoffer x hx)

end World

end TextAdventure
