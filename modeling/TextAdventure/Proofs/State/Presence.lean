import TextAdventure.Proofs.State.Nesting

/-!
# The way out

Whether an object is present is asked from the object outwards, from holder to holder. With one
holder at most for every object the way out ends where what is around the object directly lies
(`rootLocation_eq`). What goes round in a circle has no way out, so that nothing in an object that
no container holds does (`not_inside_of_reaches`), and going down into such an object comes to an
end (`nestedWithin_of_root`).
-/

namespace TextAdventure.GameState

open Std Relation

variable {s : GameState} {o x root : Id} {found : List Id}

/-! ## The end of the way out -/

/-- The way out of an object ends around it, or at the object itself. -/
theorem reaches_last {steps : Nat} :
    ReflTransGen s.Inside o ((s.enclosingFrom steps found o).getLast?.getD o) := by
  cases hlast : (s.enclosingFrom steps found o).getLast? with
  | none => exact .refl
  | some last =>
    exact (transGen_of_mem_enclosingFrom (List.mem_of_getLast? hlast)).to_reflTransGen

/-- Whatever is met on the way out lies in what is met last. -/
theorem reaches_last_of_mem {steps : Nat} (h : x ∈ s.enclosingFrom steps found o) :
    ReflTransGen s.Inside x ((s.enclosingFrom steps found o).getLast?.getD o) := by
  induction steps generalizing found o with
  | zero => simp [enclosingFrom] at h
  | succ steps ih =>
    unfold enclosingFrom at h ⊢
    cases hloc : s.locationOf o with
    | container holder =>
      simp only [hloc] at h ⊢
      by_cases hfound : holder ∈ found
      · simp [hfound] at h
      · rw [if_neg hfound] at h ⊢
        rw [List.getLast?_cons, Option.getD_some]
        rcases List.mem_cons.mp h with rfl | hrest
        · exact reaches_last
        · exact ih hrest
    | _ => simp [hloc] at h

/-- Nothing is around what no container holds. -/
theorem eq_of_reaches {last : Id} (hs : s.OneHolder) {p : Place} (hroot : s.Holds p root)
    (hp : ∀ c, p ≠ .container c) (h : ReflTransGen s.Inside root last) : last = root := by
  rcases ReflTransGen.cases_head h with rfl | ⟨holder, hin, -⟩
  · rfl
  · exact (hp holder (hs root _ _ hroot hin)).elim

/-- An object is where what is around it, at any depth, is. -/
theorem rootLocation_eq (hs : s.OneHolder) {p : Place} (hroot : s.Holds p root)
    (hp : ∀ c, p ≠ .container c) (h : ReflTransGen s.Inside o root) : s.rootLocation o = p := by
  have hlast : (s.enclosing o).getLast?.getD o = root := by
    rcases reflTransGen_iff_eq_or_transGen.mp h with rfl | h
    · exact eq_of_reaches hs hroot hp reaches_last
    · exact eq_of_reaches hs hroot hp (reaches_last_of_mem ((mem_enclosing_iff hs).mpr h))
  unfold rootLocation
  rw [hlast, hs.locationOf_eq hroot]
  cases p with
  | container c => exact (hp c rfl).elim
  | _ => rfl

/-- Nothing in an object that no container holds goes round in a circle: there is no way out of
one. -/
theorem not_inside_of_reaches {p : Place} (hs : s.OneHolder) (hroot : s.Holds p root)
    (hp : ∀ c, p ≠ .container c) (h : ReflTransGen s.Inside x root) : ¬ TransGen s.Inside x x := by
  induction h using ReflTransGen.head_induction_on with
  | refl =>
    intro hcycle
    obtain ⟨c, hin, -⟩ := TransGen.head'_iff.mp hcycle
    exact hp c (hs root _ _ hroot hin)
  | head hin _ ih =>
    intro hcycle
    obtain ⟨c, hin', hback⟩ := TransGen.head'_iff.mp hcycle
    obtain rfl := Place.container.inj (hs _ _ _ hin hin')
    exact ih (.tail' hback hin)

/-- What no container holds is nested no deeper than there are containers. -/
theorem nestedWithin_of_root {p : Place} (hs : s.OneHolder) (hroot : s.Holds p root)
    (hp : ∀ c, p ≠ .container c) : s.NestedWithin s.containers.size root :=
  nestedWithin_of_free (fun _ h => not_inside_of_reaches hs hroot hp h) (Nat.le_refl _)

end TextAdventure.GameState
