import Mathlib.Data.List.Perm.Subperm
import Mathlib.Logic.Relation
import TextAdventure.Proofs.State.Holders

/-!
# Nesting

Objects inside objects, at any depth. `Inside o c` is one step, and a state is `Acyclic` when no
sequence of steps comes back to where it began.

* **the way out** — with one holder at most for every object, `enclosing` finds exactly the
  containers around an object, even where they go round in a circle (`mem_enclosing_iff`);
* **depth** — where nothing is inside itself the nesting is no deeper than the number of
  containers, so that every way into an object ends (`Acyclic.nestedWithin`, `Acyclic.acc`);
* **preservation** — taking an object out closes no circle, and putting one into a container
  closes none unless the container is the object or inside it (`Acyclic.unplace`,
  `Acyclic.added`).
-/

namespace TextAdventure.GameState

open Std Relation

variable {s : GameState} {o c x : Id} {p : Place} {found : List Id}

/-- The object lies directly in the container. -/
def Inside (s : GameState) (o c : Id) : Prop := s.Holds (.container c) o

/-- No object is inside itself, at any depth. -/
def Acyclic (s : GameState) : Prop := ∀ o, ¬ TransGen s.Inside o o

theorem mem_containers_of_inside (h : s.Inside o c) : c ∈ s.containers :=
  mem_of_mem_getD (holds_container.mp h)

/-- Whatever is around something is a holder among the containers. -/
theorem mem_containers_of_transGen (h : TransGen s.Inside o x) : x ∈ s.containers := by
  cases h with
  | single h => exact mem_containers_of_inside h
  | tail _ h => exact mem_containers_of_inside h

/-- As many different containers as there are at all are all of them. -/
theorem mem_of_size_le (hnodup : found.Nodup) (hsub : ∀ c ∈ found, c ∈ s.containers)
    (hsize : s.containers.size ≤ found.length) (hc : c ∈ s.containers) : c ∈ found := by
  have hkeys : found.Subperm s.containers.keys :=
    hnodup.subperm fun c h => ExtTreeMap.mem_keys.mpr (hsub c h)
  have hperm : found.Perm s.containers.keys :=
    hkeys.perm_of_length_le (by rw [ExtTreeMap.length_keys]; exact hsize)
  exact hperm.mem_iff.mpr (ExtTreeMap.mem_keys.mpr hc)

/-! ## The way out -/

theorem inside_of_locationOf (h : s.locationOf o = .container c) : s.Inside o c := by
  have hne : s.locationOf o ≠ .nowhere := by
    rw [h]
    exact Place.noConfusion
  have hholds := holds_locationOf hne
  rw [h] at hholds
  exact hholds

/-- Only containers around the object are found. -/
theorem transGen_of_mem_enclosingFrom {steps : Nat} (h : x ∈ s.enclosingFrom steps found o) :
    TransGen s.Inside o x := by
  induction steps generalizing found o with
  | zero => simp [enclosingFrom] at h
  | succ steps ih =>
    unfold enclosingFrom at h
    cases hloc : s.locationOf o with
    | container holder =>
      simp only [hloc] at h
      split at h
      · simp at h
      · rcases List.mem_cons.mp h with rfl | hrest
        · exact .single (inside_of_locationOf hloc)
        · exact .head (inside_of_locationOf hloc) (ih hrest)
    | _ => simp [hloc] at h

/-- A list that has the container around each of its objects has all containers around them. -/
theorem mem_of_transGen (hclosed : ∀ f ∈ found, ∀ c, s.Inside f c → c ∈ found) (ho : o ∈ found)
    (h : TransGen s.Inside o x) : x ∈ found := by
  induction h with
  | single h => exact hclosed _ ho _ h
  | tail _ h ih => exact hclosed _ ih _ h

/-- Every container around the object is found, or was found before. The list `found` has the
containers around each of its members but the last one, the object itself, and with `steps` more
it is long enough for all containers. -/
theorem mem_enclosingFrom (hs : s.OneHolder) {steps : Nat} (hnodup : found.Nodup)
    (hsub : ∀ f ∈ found, f ∈ s.containers) (hsize : s.containers.size ≤ found.length + steps)
    (hclosed : ∀ f ∈ found, f ≠ o → ∀ c, s.Inside f c → c ∈ found)
    (h : TransGen s.Inside o x) : x ∈ found ∨ x ∈ s.enclosingFrom steps found o := by
  induction steps generalizing found o with
  | zero => exact .inl (mem_of_size_le hnodup hsub hsize (mem_containers_of_transGen h))
  | succ steps ih =>
    obtain ⟨holder, hin, hrest⟩ := TransGen.head'_iff.mp h
    have hloc : s.locationOf o = .container holder := hs.locationOf_eq hin
    have honly : ∀ c, s.Inside o c → c = holder := fun c hc =>
      Place.container.inj (hs o _ _ hc hin)
    unfold enclosingFrom
    simp only [hloc]
    by_cases hmem : holder ∈ found
    · refine .inl ?_
      -- the circle closes: `found` now has the container around each of its members
      have hall : ∀ f ∈ found, ∀ c, s.Inside f c → c ∈ found := by
        intro f hf c hc
        by_cases hfo : f = o
        · subst hfo
          rw [honly c hc]
          exact hmem
        · exact hclosed f hf hfo c hc
      rcases reflTransGen_iff_eq_or_transGen.mp hrest with rfl | hrest
      · exact hmem
      · exact mem_of_transGen hall hmem hrest
    · rw [if_neg hmem]
      rcases reflTransGen_iff_eq_or_transGen.mp hrest with rfl | hrest
      · exact .inr (List.mem_cons_self ..)
      -- a new holder: the list grows by it, and the holder is now its last member
      have hnext : x ∈ holder :: found ∨ x ∈ s.enclosingFrom steps (holder :: found) holder := by
        refine ih (List.nodup_cons.mpr ⟨hmem, hnodup⟩) ?_ ?_ ?_ hrest
        · intro f hf
          rcases List.mem_cons.mp hf with rfl | hf
          · exact mem_containers_of_inside hin
          · exact hsub f hf
        · rw [List.length_cons]
          omega
        · intro f hf hne c hc
          rcases List.mem_cons.mp hf with rfl | hf
          · exact (hne rfl).elim
          · by_cases hfo : f = o
            · subst hfo
              rw [honly c hc]
              exact List.mem_cons_self ..
            · exact List.mem_cons_of_mem _ (hclosed f hf hfo c hc)
      rcases hnext with hfound | hlater
      · rcases List.mem_cons.mp hfound with rfl | hfound
        · exact .inr (List.mem_cons_self ..)
        · exact .inl hfound
      · exact .inr (List.mem_cons_of_mem _ hlater)

/-- `enclosing` finds exactly the containers around the object. -/
theorem mem_enclosing_iff (hs : s.OneHolder) : x ∈ s.enclosing o ↔ TransGen s.Inside o x := by
  constructor
  · exact transGen_of_mem_enclosingFrom
  · intro h
    have hfound : x ∈ [] ∨ x ∈ s.enclosingFrom s.containers.size [] o :=
      mem_enclosingFrom hs List.nodup_nil (by simp) (by simp) (by simp) h
    exact hfound.resolve_left List.not_mem_nil

/-! ## Depth -/

/-- Nothing is nested in the object more than `depth` deep. -/
def NestedWithin (s : GameState) : Nat → Id → Prop
  | 0, o => ∀ x, ¬ s.Inside x o
  | depth + 1, o => ∀ x, s.Inside x o → NestedWithin s depth x

/-- Neither the object nor anything inside it is inside itself. The list `above` has different
containers around the object, and with `depth` more it is long enough for all containers: at depth
zero they are all around the object, which can hold nothing then. -/
theorem nestedWithin_of_above (hfree : ∀ x, ReflTransGen s.Inside x o → ¬ TransGen s.Inside x x)
    {depth : Nat} {above : List Id} (hnodup : above.Nodup)
    (habove : ∀ a ∈ above, TransGen s.Inside o a)
    (hsize : s.containers.size ≤ above.length + depth) : s.NestedWithin depth o := by
  induction depth generalizing above o with
  | zero =>
    -- as a holder the object would be one of those around it
    intro x hin
    have hmem : o ∈ above :=
      mem_of_size_le hnodup (fun a ha => mem_containers_of_transGen (habove a ha)) hsize
        (mem_containers_of_inside hin)
    exact hfree o .refl (habove o hmem)
  | succ depth ih =>
    -- around what the object holds there is one container more, the object
    intro x hin
    have hnodup' : (o :: above).Nodup :=
      List.nodup_cons.mpr ⟨fun hmem => hfree o .refl (habove o hmem), hnodup⟩
    refine ih (fun y hy => hfree y (hy.tail hin)) hnodup' ?_ ?_
    · intro a ha
      rcases List.mem_cons.mp ha with rfl | ha
      · exact .single hin
      · exact .head hin (habove a ha)
    · rw [List.length_cons]
      omega

/-- An object that holds nothing that is inside itself, and is not so either, is nested no deeper
than there are containers. -/
theorem nestedWithin_of_free (hfree : ∀ x, ReflTransGen s.Inside x o → ¬ TransGen s.Inside x x)
    {depth : Nat} (hdepth : s.containers.size ≤ depth) : s.NestedWithin depth o := by
  refine nestedWithin_of_above hfree List.nodup_nil (fun a ha => (List.not_mem_nil ha).elim) ?_
  rw [List.length_nil]
  omega

/-- Where nothing is inside itself, nothing is nested deeper than there are containers. -/
theorem Acyclic.nestedWithin (ha : s.Acyclic) {depth : Nat} (hdepth : s.containers.size ≤ depth)
    (o : Id) : s.NestedWithin depth o :=
  nestedWithin_of_free (fun x _ => ha x) hdepth

/-- An object that is nested to some depth only is not inside itself. -/
theorem NestedWithin.not_inside {depth : Nat} (h : s.NestedWithin depth o) :
    ¬ TransGen s.Inside o o := by
  induction depth generalizing o with
  | zero =>
    intro hcycle
    obtain ⟨x, -, hin⟩ := TransGen.tail'_iff.mp hcycle
    exact h x hin
  | succ depth ih =>
    intro hcycle
    obtain ⟨x, hreach, hin⟩ := TransGen.tail'_iff.mp hcycle
    exact ih (h x hin) (.head' hin hreach)

theorem NestedWithin.acc {depth : Nat} (h : s.NestedWithin depth o) : Acc s.Inside o := by
  induction depth generalizing o with
  | zero => exact .intro o fun x hin => (h x hin).elim
  | succ depth ih => exact .intro o fun x hin => ih (h x hin)

/-- Every way into the contents of an object comes to an end. -/
theorem Acyclic.acc (ha : s.Acyclic) (o : Id) : Acc s.Inside o :=
  (ha.nestedWithin (Nat.le_refl _) o).acc

/-! ## Preservation -/

theorem OneHolder.unplace (hs : s.OneHolder) : (s.unplace o).OneHolder := by
  intro x p q hp hq
  exact hs x p q ((holds_unplace hs).mp hp).1 ((holds_unplace hs).mp hq).1

/-- An object that nothing holds gets one holder. -/
theorem OneHolder.added (hs : s.OneHolder) (hout : ∀ q, ¬ s.Holds q o) :
    (s.added o p).OneHolder := by
  intro x q q' hq hq'
  rcases holds_added.mp hq with hold | ⟨-, rfl, rfl⟩
  · rcases holds_added.mp hq' with hold' | ⟨-, -, rfl⟩
    · exact hs x _ _ hold hold'
    · exact (hout _ hold).elim
  · rcases holds_added.mp hq' with hold' | ⟨-, rfl, -⟩
    · exact (hout _ hold').elim
    · rfl

/-- A state in which no more lies inside anything has no more circles. -/
theorem Acyclic.mono {t : GameState} (ha : s.Acyclic) (hin : ∀ x c, t.Inside x c → s.Inside x c) :
    t.Acyclic := by
  intro x h
  exact ha x (TransGen.mono (fun y c hc => hin y c hc) x x h)

/-- Taking an object out closes no circle. -/
theorem Acyclic.unplace (ha : s.Acyclic) : (s.unplace o).Acyclic :=
  ha.mono fun _ _ hin => (holds_unplace_iff.mp hin).1

/-- Taking an object out changes nothing about what is inside it: the way to it never leads
through it. -/
theorem transGen_unplace_iff (hs : s.OneHolder) (ha : s.Acyclic) :
    TransGen (s.unplace o).Inside x o ↔ TransGen s.Inside x o := by
  constructor
  · exact fun h => TransGen.mono (fun _ _ hin => (holds_unplace_iff.mp hin).1) x o h
  · intro h
    induction h using TransGen.head_induction_on with
    | single hin =>
      refine .single ((holds_unplace hs).mpr ⟨hin, ?_⟩)
      rintro rfl
      exact ha _ (.single hin)
    | head hin hrest ih =>
      refine .head ((holds_unplace hs).mpr ⟨hin, ?_⟩) ih
      rintro rfl
      exact ha _ (.head hin hrest)

/-- What is around an object after one object has been put into a container: it was around it
before, or the way leads through the object that was put in. -/
theorem transGen_added {a b holder : Id} (hfree : ¬ ReflTransGen s.Inside holder o)
    (h : TransGen (s.added o (.container holder)).Inside a b) :
    TransGen s.Inside a b ∨ (ReflTransGen s.Inside a o ∧ ReflTransGen s.Inside holder b) := by
  have hstep : ∀ {x y}, (s.added o (.container holder)).Inside x y →
      s.Inside x y ∨ (x = o ∧ y = holder) := by
    intro x y hin
    rcases holds_added.mp hin with hin | ⟨-, hy, hx⟩
    · exact .inl hin
    · exact .inr ⟨hx, Place.container.inj hy⟩
  induction h with
  | single hin =>
    rcases hstep hin with hin | ⟨rfl, rfl⟩
    · exact .inl (.single hin)
    · exact .inr ⟨.refl, .refl⟩
  | tail _ hin ih =>
    rcases hstep hin with hin | ⟨rfl, rfl⟩
    · rcases ih with hbefore | ⟨hto, hfrom⟩
      · exact .inl (.tail hbefore hin)
      · exact .inr ⟨hto, .tail hfrom hin⟩
    · -- the new step can be gone once only: after it `o` would have to be reached again
      rcases ih with hbefore | ⟨-, hfrom⟩
      · exact .inr ⟨hbefore.to_reflTransGen, .refl⟩
      · exact (hfree hfrom).elim

/-- Putting an object into a container closes no circle, unless the container is the object or
inside it. -/
theorem Acyclic.added (ha : s.Acyclic)
    (hfree : ∀ holder, p = .container holder → ¬ ReflTransGen s.Inside holder o) :
    (s.added o p).Acyclic := by
  cases p with
  | container holder =>
    intro x h
    have hholder := hfree holder rfl
    rcases transGen_added hholder h with hbefore | ⟨hto, hfrom⟩
    · exact ha x hbefore
    · exact hholder (hfrom.trans hto)
  | _ =>
    refine ha.mono fun x c hin => ?_
    rcases holds_added.mp hin with hbefore | ⟨-, hplace, -⟩
    · exact hbefore
    · cases hplace

end TextAdventure.GameState
