import Mathlib.Data.List.Forall2
import TextAdventure.Play.Act

/-!
# Outcomes

How a computation that can fail ends: with a value or with an error. The first section opens
sequences of steps, branches and changes of the kind of error; the second follows a computation
along a list, which goes through when every step does.

A computation is `FaultFree` when it does not fail because of the world: it may refuse what the
player wants, but it finds everything it looks up.
-/

namespace TextAdventure

variable {ε ε' α β : Type}

/-! ## Going through -/

section Going

variable {x y : Except ε α} {next : α → Except ε β} {change : ε → ε'} {a : α}

@[simp] theorem ok_bind : Except.ok a >>= next = next a := rfl

@[simp] theorem bind_eq_ok {b : β} : x >>= next = .ok b ↔ ∃ a, x = .ok a ∧ next a = .ok b := by
  cases x with
  | ok a => simp
  | error e => simp [bind, Except.bind]

theorem bind_eq_error {e : ε} :
    x >>= next = .error e ↔ x = .error e ∨ ∃ a, x = .ok a ∧ next a = .error e := by
  cases x with
  | ok a => simp
  | error e' => simp [bind, Except.bind]

@[simp] theorem pure_eq_ok {a' : α} : (pure a : Except ε α) = .ok a' ↔ a = a' := by
  simp [pure, Except.pure]

@[simp] theorem map_ok {g : α → β} : (g <$> Except.ok a : Except ε β) = .ok (g a) := rfl

@[simp] theorem map_eq_ok {g : α → β} {b : β} : g <$> x = .ok b ↔ ∃ a, x = .ok a ∧ g a = b := by
  cases x with
  | ok a => simp
  | error e => simp [Functor.map, Except.map]

@[simp] theorem throw_eq_error {e : ε} : (throw e : Except ε α) = .error e := rfl

@[simp] theorem discard_eq_ok {u : PUnit} : discard x = .ok u ↔ ∃ a, x = .ok a := by
  cases x <;> simp [discard, Functor.mapConst, Except.map]

@[simp] theorem mapError_eq_ok : x.mapError change = .ok a ↔ x = .ok a := by
  cases x <;> simp [Except.mapError]

@[simp] theorem mapError_eq_error {e' : ε'} :
    x.mapError change = .error e' ↔ ∃ e, x = .error e ∧ change e = e' := by
  cases x <;> simp [Except.mapError]

theorem toOption_eq_some : x.toOption = some a ↔ x = .ok a := by
  cases x <;> simp [Except.toOption]

theorem isOk_iff : x.isOk = true ↔ ∃ a, x = .ok a := by
  cases x <;> simp [Except.isOk, Except.toBool]

/-- A branch goes through when the side that is taken does. -/
theorem ite_eq_ok {p : Prop} [Decidable p] :
    (if p then x else y) = .ok a ↔ (p ∧ x = .ok a) ∨ (¬p ∧ y = .ok a) := by
  by_cases h : p <;> simp [h]

end Going

/-! ## Along a list -/

/-- The values along a list are those of its elements, in order. -/
theorem forall₂_of_mapM {f : α → Except ε β} {xs : List α} {values : List β}
    (h : xs.mapM f = .ok values) : List.Forall₂ (f · = .ok ·) xs values := by
  induction xs generalizing values with
  | nil =>
    obtain rfl := pure_eq_ok.mp h
    exact .nil
  | cons x rest ih =>
    rw [List.mapM_cons] at h
    simp only [bind_eq_ok, pure_eq_ok] at h
    obtain ⟨y, hy, ys', hys', rfl⟩ := h
    exact .cons hy (ih hys')

/-- Every value along a list is that of an element. -/
theorem exists_of_mem_values {f : α → Except ε β} {xs : List α} {ys : List β} {y : β}
    (h : xs.mapM f = .ok ys) (hy : y ∈ ys) : ∃ x ∈ xs, f x = .ok y := by
  have hall := forall₂_of_mapM h
  clear h
  induction hall with
  | nil => exact (List.not_mem_nil hy).elim
  | @cons x y' xs ys hx hrest ih =>
    rcases List.mem_cons.mp hy with rfl | hy
    · exact ⟨x, List.mem_cons_self .., hx⟩
    · obtain ⟨x', hx', hok⟩ := ih hy
      exact ⟨x', List.mem_cons_of_mem _ hx', hok⟩

/-- Every element of a list has a value. -/
theorem exists_of_mem_list {f : α → Except ε β} {xs : List α} {ys : List β} {x : α}
    (h : xs.mapM f = .ok ys) (hx : x ∈ xs) : ∃ y ∈ ys, f x = .ok y := by
  have hall := forall₂_of_mapM h
  clear h
  induction hall with
  | nil => exact (List.not_mem_nil hx).elim
  | @cons x' y xs ys hx' hrest ih =>
    rcases List.mem_cons.mp hx with rfl | hx
    · exact ⟨y, List.mem_cons_self .., hx'⟩
    · obtain ⟨y', hy', hok⟩ := ih hx
      exact ⟨y', List.mem_cons_of_mem _ hy', hok⟩

theorem mapM_ok {f : α → Except ε β} {xs : List α} (h : ∀ x ∈ xs, ∃ y, f x = .ok y) :
    ∃ ys, xs.mapM f = .ok ys := by
  induction xs with
  | nil => exact ⟨[], rfl⟩
  | cons x rest ih =>
    obtain ⟨y, hy⟩ := h x (List.mem_cons_self ..)
    obtain ⟨ys, hys⟩ := ih fun x' hx' => h x' (List.mem_cons_of_mem _ hx')
    refine ⟨y :: ys, ?_⟩
    rw [List.mapM_cons, hy, hys]
    rfl

/-- A computation along a list is stopped by the first element that has an error. -/
theorem mapM_eq_error_iff {f : α → Except ε β} {xs : List α} {e : ε} :
    xs.mapM f = .error e ↔ ∃ before x after, xs = before ++ x :: after ∧
      (∀ y ∈ before, ∃ b, f y = .ok b) ∧ f x = .error e := by
  constructor
  · intro h
    induction xs with
    | nil => cases h
    | cons x rest ih =>
      rw [List.mapM_cons, bind_eq_error] at h
      rcases h with hx | ⟨b, hb, h⟩
      · exact ⟨[], x, rest, rfl, nofun, hx⟩
      · rcases bind_eq_error.mp h with hrest | ⟨bs, -, h⟩
        · obtain ⟨before, x', after, rfl, hbefore, hx'⟩ := ih hrest
          refine ⟨x :: before, x', after, rfl, fun y hy => ?_, hx'⟩
          rcases List.mem_cons.mp hy with rfl | hy
          · exact ⟨b, hb⟩
          · exact hbefore y hy
        · cases h
  · rintro ⟨before, x, after, rfl, hbefore, hx⟩
    obtain ⟨bs, hbs⟩ := mapM_ok hbefore
    rw [List.mapM_append, hbs, ok_bind, List.mapM_cons, hx]
    rfl

/-- What stops a computation along a list is the error of an element. -/
theorem exists_of_mapM_error {f : α → Except ε β} {xs : List α} {e : ε}
    (h : xs.mapM f = .error e) : ∃ x ∈ xs, f x = .error e := by
  obtain ⟨before, x, after, rfl, -, hx⟩ := mapM_eq_error_iff.mp h
  exact ⟨x, List.mem_append_right _ (List.mem_cons_self ..), hx⟩

theorem filterAuxM_ok {f : α → Except ε Bool} {xs acc : List α}
    (h : ∀ x ∈ xs, ∃ b, f x = .ok b) :
    ∃ ys, xs.filterAuxM f acc = .ok ys ∧ ∀ y ∈ ys, y ∈ xs ∨ y ∈ acc := by
  -- what was picked so far grows along the list
  induction xs generalizing acc with
  | nil => exact ⟨acc, rfl, fun y hy => .inr hy⟩
  | cons x rest ih =>
    obtain ⟨b, hb⟩ := h x (List.mem_cons_self ..)
    obtain ⟨ys, hys, hsub⟩ := @ih (cond b (x :: acc) acc)
      fun x' hx' => h x' (List.mem_cons_of_mem _ hx')
    refine ⟨ys, ?_, fun y hy => ?_⟩
    · unfold List.filterAuxM
      rw [hb, ok_bind]
      exact hys
    · rcases hsub y hy with hrest | hacc
      · exact .inl (List.mem_cons_of_mem _ hrest)
      · cases b with
        | false => exact .inr hacc
        | true =>
          rcases List.mem_cons.mp hacc with rfl | hacc
          · exact .inl (List.mem_cons_self ..)
          · exact .inr hacc

/-- A test that goes through on every element picks some of them. -/
theorem filterM_ok {f : α → Except ε Bool} {xs : List α} (h : ∀ x ∈ xs, ∃ b, f x = .ok b) :
    ∃ ys, xs.filterM f = .ok ys ∧ ∀ y ∈ ys, y ∈ xs := by
  obtain ⟨ys, hys, hsub⟩ := @filterAuxM_ok ε α f xs [] h
  refine ⟨ys.reverse, ?_, fun y hy => ?_⟩
  · unfold List.filterM
    rw [hys]
    rfl
  · exact (hsub y (List.mem_reverse.mp hy)).resolve_right List.not_mem_nil

/-- Steps that each ask for something go through when all of it holds, and are a fold without
errors then. -/
theorem foldlM_eq_ok_iff {f : β → α → Except ε β} {g : β → α → β} {P : α → Prop} {xs : List α}
    {b b' : β} (hstep : ∀ c, ∀ x ∈ xs, ∀ c', f c x = .ok c' ↔ P x ∧ c' = g c x) :
    xs.foldlM f b = .ok b' ↔ (∀ x ∈ xs, P x) ∧ b' = xs.foldl g b := by
  induction xs generalizing b with
  | nil =>
    rw [List.foldlM_nil, pure_eq_ok]
    simp [eq_comm]
  | cons x rest ih =>
    rw [List.foldlM_cons, bind_eq_ok, List.forall_mem_cons, List.foldl_cons]
    have ih := fun c => @ih c fun d y hy => hstep d y (List.mem_cons_of_mem _ hy)
    simp only [hstep b x (List.mem_cons_self ..), ih]
    constructor
    · rintro ⟨c, ⟨hx, rfl⟩, hrest, heq⟩
      exact ⟨⟨hx, hrest⟩, heq⟩
    · rintro ⟨⟨hx, hrest⟩, heq⟩
      exact ⟨_, ⟨hx, rfl⟩, hrest, heq⟩

/-! ## Changing the kind of error -/

@[simp] theorem liftM_containerError (x : Except WorldError α) :
    (liftM x : Except ContainerError α) = x.mapError .world := rfl

@[simp] theorem liftM_lightError (x : Except WorldError α) :
    (liftM x : Except LightError α) = x.mapError .world := rfl

@[simp] theorem liftM_refusal (x : Except WorldError α) :
    (liftM x : Except Refusal α) = x.mapError .world := by
  cases x <;> rfl

theorem liftM_refusal_eq_ok {x : Except WorldError α} {a : α} :
    (liftM x : Except Refusal α) = .ok a ↔ x = .ok a := by
  rw [liftM_refusal, mapError_eq_ok]

/-! ## Faults of the world -/

/-- The computation does not fail because of the world; `fault` is how its errors tell of that. -/
def FaultFree (fault : WorldError → ε) (x : Except ε α) : Prop := ∀ cause, x ≠ .error (fault cause)

namespace FaultFree

variable {fault : WorldError → ε} {x : Except ε α} {f : α → Except ε β}

theorem ok (a : α) : FaultFree fault (.ok a) := fun _ h => by cases h

theorem of_ok {a : α} (h : x = .ok a) : FaultFree fault x := h ▸ .ok a

theorem error {e : ε} (h : ∀ cause, e ≠ fault cause) :
    FaultFree fault (.error e : Except ε α) :=
  fun cause heq => h cause (Except.error.inj heq)

/-- A sequence is free of faults when its steps are. -/
theorem bind (hx : FaultFree fault x) (hf : ∀ a, x = .ok a → FaultFree fault (f a)) :
    FaultFree fault (x >>= f) := by
  cases h : x with
  | ok a => exact hf a h
  | error e => exact fun cause heq => hx cause (h.trans (congrArg _ (Except.error.inj heq)))

theorem discard (hx : FaultFree fault x) : FaultFree fault (discard x) := by
  cases h : x with
  | ok a => exact .ok PUnit.unit
  | error e => exact fun cause heq => hx cause (h.trans (congrArg _ (Except.error.inj heq)))

theorem ite {p : Prop} [Decidable p] {y : Except ε α} (hx : p → FaultFree fault x)
    (hy : ¬p → FaultFree fault y) : FaultFree fault (if p then x else y) := by
  split
  · exact hx ‹p›
  · exact hy ‹¬p›

/-- Changing the kind of error makes no fault of what was none. -/
theorem mapError {fault' : WorldError → ε'} {g : ε → ε'} (hx : FaultFree fault x)
    (hg : ∀ e cause, g e = fault' cause → ∃ cause', e = fault cause') :
    FaultFree fault' (x.mapError g) := by
  intro cause heq
  obtain ⟨e, he, hcause⟩ := mapError_eq_error.mp heq
  obtain ⟨cause', rfl⟩ := hg e cause hcause
  exact hx cause' he

/-- What a container refuses is no fault for the player either. -/
theorem ofContainer {x : Except ContainerError α} (hx : FaultFree .world x) :
    FaultFree Refusal.world (x.mapError Refusal.ofContainer) := by
  refine hx.mapError fun e cause heq => ?_
  cases e with
  | world c => exact ⟨c, rfl⟩
  | _ => cases heq

/-- Neither is what a light source refuses. -/
theorem ofLight {x : Except LightError α} (hx : FaultFree .world x) :
    FaultFree Refusal.world (x.mapError Refusal.ofLight) := by
  refine hx.mapError fun e cause heq => ?_
  cases e with
  | world c => exact ⟨c, rfl⟩
  | _ => cases heq

end FaultFree

end TextAdventure
