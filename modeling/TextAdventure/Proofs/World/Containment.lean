import Mathlib.Data.List.Nodup
import Mathlib.Logic.Relation
import TextAdventure.Authored.Check

/-!
# Cycles of containment

The check of an authored world goes from every object that starts inside a container to its holder,
from there to the holder of that, and so on. It reports the object when this comes back to an object
that has been seen (`comesBack`).

* **the walk** — every turn sees a held object that was not seen before, so that a walk has no more
  turns than there are held objects (`length_turns_le`), and it comes back when some turns lead to
  an object that has been seen (`comesBack_iff_turns`);
* **exactness** — a walk comes back exactly when the holders never come to an end
  (`comesBack_iff_endless`), and then some object is inside itself (`comesBack_iff_cycle`);
* **reports** — so an object is reported, and only once, exactly when the holders never lead from it
  to an object that starts in no container or in one that is not there (`cycles_reported`).
-/

namespace TextAdventure.Authored

open Std Relation

variable {holders : ExtTreeMap Id Id} {seen : List Id} {id holder x y : Id}
  {objects : List Object} {o o' : Object}

/-! ## From holder to holder -/

/-- The one object is directly inside the other. -/
def IsHeldBy (holders : ExtTreeMap Id Id) (x holder : Id) : Prop := holders[x]? = some holder

theorem mem_iff_isHeldBy : x ∈ holders ↔ ∃ holder, IsHeldBy holders x holder := by
  rw [ExtTreeMap.mem_iff_isSome_getElem?, Option.isSome_iff_exists]
  rfl

/-- An object has one holder at most. -/
theorem rightUnique_isHeldBy : Relator.RightUnique (IsHeldBy holders) :=
  fun _ _ _ h h' => Option.some.inj (h.symm.trans h')

/-- The holders never come to an end: whatever is reached is held. -/
def Endless (holders : ExtTreeMap Id Id) (id : Id) : Prop :=
  ∀ x, ReflTransGen (IsHeldBy holders) id x → x ∈ holders

theorem mem_of_transGen (h : TransGen (IsHeldBy holders) x y) : x ∈ holders := by
  obtain ⟨holder, hstep, -⟩ := TransGen.head'_iff.mp h
  exact mem_iff_isHeldBy.mpr ⟨holder, hstep⟩

/-- Around a cycle everything is inside itself. -/
theorem cycle_of_reached (hcycle : TransGen (IsHeldBy holders) x x)
    (h : ReflTransGen (IsHeldBy holders) x y) : TransGen (IsHeldBy holders) y y := by
  induction h with
  | refl => exact hcycle
  | tail _ hstep ih =>
    -- the cycle can only go on along the same step
    obtain ⟨holder, hstep', hback⟩ := TransGen.head'_iff.mp ih
    obtain rfl := rightUnique_isHeldBy hstep' hstep
    exact TransGen.tail' hback hstep

/-- Holders that lead into a cycle never come to an end. -/
theorem endless_of_cycle (h : ReflTransGen (IsHeldBy holders) id y)
    (hcycle : TransGen (IsHeldBy holders) y y) : Endless holders id := by
  intro x hx
  rcases ReflTransGen.total_of_right_unique rightUnique_isHeldBy h hx with hon | hbefore
  · exact mem_of_transGen (cycle_of_reached hcycle hon)
  · exact mem_of_transGen (TransGen.trans_right hbefore hcycle)

/-! ## The walk -/

/-- A walk along holders without end comes back. -/
theorem comesBack_of_endless (h : Endless holders id) : comesBack holders seen id = true := by
  fun_induction comesBack holders seen id with
  | case1 seen id hnone =>
    obtain ⟨holder, hheld⟩ := mem_iff_isHeldBy.mp (h id .refl)
    cases hnone.symm.trans hheld
  | case2 => rfl
  | case3 seen id holder hheld _ ih => exact ih fun x hx => h x (.head hheld hx)

/-- A walk that comes back has led into a cycle. -/
theorem exists_cycle_of_comesBack (hseen : ∀ x ∈ seen, TransGen (IsHeldBy holders) x id)
    (h : comesBack holders seen id = true) :
    ∃ y, ReflTransGen (IsHeldBy holders) id y ∧ TransGen (IsHeldBy holders) y y := by
  fun_induction comesBack holders seen id with
  | case1 => cases h
  | case2 seen id holder hheld hmem => exact ⟨id, .refl, hseen id hmem⟩
  | case3 seen id holder hheld _ ih =>
    have hstep : IsHeldBy holders id holder := hheld
    -- what has been seen leads to the holder as well
    have hseen' : ∀ x ∈ id :: seen, TransGen (IsHeldBy holders) x holder := by
      intro x hx
      rcases List.mem_cons.mp hx with rfl | hx
      · exact .single hstep
      · exact (hseen x hx).tail hstep
    obtain ⟨y, hy, hcycle⟩ := ih hseen' h
    exact ⟨y, .head hstep hy, hcycle⟩

theorem comesBack_iff_cycle : comesBack holders [] id = true ↔
    ∃ y, ReflTransGen (IsHeldBy holders) id y ∧ TransGen (IsHeldBy holders) y y :=
  ⟨exists_cycle_of_comesBack nofun,
    fun ⟨_, hy, hcycle⟩ => comesBack_of_endless (endless_of_cycle hy hcycle)⟩

/-- **A walk comes back** exactly when the holders never come to an end. -/
theorem comesBack_iff_endless : comesBack holders [] id = true ↔ Endless holders id := by
  refine ⟨fun h => ?_, comesBack_of_endless⟩
  obtain ⟨y, hy, hcycle⟩ := comesBack_iff_cycle.mp h
  exact endless_of_cycle hy hcycle

/-! ### Turns -/

/-- A turn of the walk: from a held object that was not seen before on to its holder. -/
inductive IsTurn (holders : ExtTreeMap Id Id) : List Id × Id → List Id × Id → Prop
  | step {seen : List Id} {id holder : Id} (held : IsHeldBy holders id holder)
      (new : id ∉ seen) : IsTurn holders (seen, id) (id :: seen, holder)

/-- No walk has more turns than there are held objects to see. -/
theorem length_turns_le {start : List Id × Id} {turns : List (List Id × Id)}
    (h : List.IsChain (IsTurn holders) (start :: turns)) :
    turns.length ≤ (unseen holders start.1).length := by
  induction turns generalizing start with
  | nil => exact Nat.zero_le _
  | cons next rest ih =>
    obtain ⟨hturn, hrest⟩ := List.isChain_cons_cons.mp h
    have hbound := ih hrest
    cases hturn with
    | step hheld hnew => exact Nat.lt_of_le_of_lt hbound (length_unseen_lt hheld hnew)

/-- A walk comes back when some turns lead to a held object that has been seen. -/
theorem comesBack_iff_turns : comesBack holders seen id = true ↔
    ∃ seen' x, ReflTransGen (IsTurn holders) (seen, id) (seen', x) ∧ x ∈ holders ∧ x ∈ seen' := by
  fun_induction comesBack holders seen id with
  | case1 seen id hnone =>
    refine iff_of_false nofun ?_
    rintro ⟨seen', x, hturns, hx, -⟩
    -- there is no turn from an object that nothing holds
    rcases hturns.cases_head with heq | ⟨_, ⟨hheld, -⟩, -⟩
    · obtain ⟨holder, hheld⟩ := mem_iff_isHeldBy.mp hx
      rw [← (Prod.mk.inj heq).2] at hheld
      cases hnone.symm.trans hheld
    · cases hnone.symm.trans hheld
  | case2 seen id holder hheld hmem =>
    exact iff_of_true rfl ⟨seen, id, .refl, mem_iff_isHeldBy.mpr ⟨holder, hheld⟩, hmem⟩
  | case3 seen id holder hheld hnew ih =>
    rw [ih]
    constructor
    · rintro ⟨seen', x, hturns, hx⟩
      exact ⟨seen', x, .head (.step hheld hnew) hturns, hx⟩
    · rintro ⟨seen', x, hturns, hx, hmem⟩
      rcases hturns.cases_head with heq | ⟨_, ⟨hheld', -⟩, hturns⟩
      · obtain ⟨rfl, rfl⟩ := Prod.mk.inj heq
        exact (hnew hmem).elim
      · obtain rfl := rightUnique_isHeldBy hheld hheld'
        exact ⟨seen', x, hturns, hx, hmem⟩

/-! ## Where objects start -/

theorem getElem?_addHolder_of_ne (hne : id ≠ o.id) : (addHolder holders o)[id]? = holders[id]? := by
  unfold addHolder
  split
  · rw [ExtTreeMap.getElem?_insert, if_neg]
    exact fun heq => hne (LawfulEqCmp.eq_of_compare heq).symm
  · rfl

/-- With distinct ids no later object takes away the holder of an earlier one. -/
theorem getElem?_foldl_addHolder (h : id ∉ objects.map (·.id)) :
    (objects.foldl addHolder holders)[id]? = holders[id]? := by
  induction objects generalizing holders with
  | nil => rfl
  | cons first rest ih =>
    rw [List.map_cons, List.mem_cons, not_or] at h
    rw [List.foldl_cons, ih h.2, getElem?_addHolder_of_ne h.1]

theorem getElem?_startHolders (hnodup : (objects.map (·.id)).Nodup) (ho : o ∈ objects)
    (hloc : o.location = .container holder) :
    (objects.foldl addHolder holders)[o.id]? = some holder := by
  induction objects generalizing holders with
  | nil => exact (List.not_mem_nil ho).elim
  | cons first rest ih =>
    rw [List.map_cons, List.nodup_cons] at hnodup
    rw [List.foldl_cons]
    rcases List.mem_cons.mp ho with rfl | ho
    · rw [getElem?_foldl_addHolder hnodup.1]
      unfold addHolder
      rw [hloc]
      exact ExtTreeMap.getElem?_insert_self
    · exact ih hnodup.2 ho

/-- Only what starts inside a container is given a holder. -/
theorem exists_of_getElem?_foldl_addHolder
    (h : (objects.foldl addHolder holders)[id]? = some holder) :
    holders[id]? = some holder ∨ ∃ o ∈ objects, o.id = id ∧ o.location = .container holder := by
  induction objects generalizing holders with
  | nil => exact .inl h
  | cons first rest ih =>
    rw [List.foldl_cons] at h
    rcases ih h with hfirst | ⟨o, ho, hid, hloc⟩
    · by_cases hid : id = first.id
      · unfold addHolder at hfirst
        split at hfirst
        · rename_i holder' hloc
          rw [hid, ExtTreeMap.getElem?_insert_self] at hfirst
          rw [Option.some.inj hfirst] at hloc
          exact .inr ⟨first, List.mem_cons_self .., hid.symm, hloc⟩
        · exact .inl hfirst
      · rw [getElem?_addHolder_of_ne hid] at hfirst
        exact .inl hfirst
    · exact .inr ⟨o, List.mem_cons_of_mem _ ho, hid, hloc⟩

theorem size_foldl_addHolder_le :
    (objects.foldl addHolder holders).size ≤ holders.size + objects.length := by
  induction objects generalizing holders with
  | nil => exact Nat.le_refl _
  | cons first rest ih =>
    have hfirst : (addHolder holders first).size ≤ holders.size + 1 := by
      unfold addHolder
      split
      · exact ExtTreeMap.size_insert_le
      · exact Nat.le_succ _
    have hrest := @ih (addHolder holders first)
    rw [List.foldl_cons, List.length_cons]
    omega

/-- No more objects are held than there are. -/
theorem length_unseen_startHolders_le :
    (unseen (startHolders objects) seen).length ≤ objects.length := by
  have hsize : (startHolders objects).size ≤ (∅ : ExtTreeMap Id Id).size + objects.length :=
    size_foldl_addHolder_le
  rw [ExtTreeMap.size_empty, Nat.zero_add] at hsize
  have hkeys : (unseen (startHolders objects) seen).length ≤ (startHolders objects).keys.length :=
    List.length_filter_le _ _
  rw [ExtTreeMap.length_keys] at hkeys
  exact Nat.le_trans hkeys hsize

/-- What is held starts in its holder. -/
theorem exists_of_isHeldBy (h : IsHeldBy (startHolders objects) id holder) :
    ∃ o ∈ objects, o.id = id ∧ o.location = .container holder := by
  rcases exists_of_getElem?_foldl_addHolder h with hnone | hsome
  · rw [ExtTreeMap.getElem?_empty] at hnone
    cases hnone
  · exact hsome

/-- With distinct ids an object is held by the container that it starts in. -/
theorem isHeldBy_startHolders_iff (hids : (objects.map (·.id)).Nodup) (ho : o ∈ objects) :
    IsHeldBy (startHolders objects) o.id holder ↔ o.location = .container holder := by
  refine ⟨fun h => ?_, getElem?_startHolders hids ho⟩
  obtain ⟨o', ho', hid, hloc⟩ := exists_of_isHeldBy h
  rw [← List.inj_on_of_nodup_map hids ho' ho hid]
  exact hloc

theorem exists_of_mem_startHolders (h : id ∈ startHolders objects) : ∃ o ∈ objects, o.id = id := by
  obtain ⟨holder, hheld⟩ := mem_iff_isHeldBy.mp h
  obtain ⟨o, ho, hid, -⟩ := exists_of_isHeldBy hheld
  exact ⟨o, ho, hid⟩

/-- The one object starts inside the other. -/
def StartsIn (objects : List Object) (o o' : Object) : Prop :=
  o' ∈ objects ∧ o.location = .container o'.id

/-- Following the containers ends at the object: it starts in none, or in one that is not there. -/
inductive IsLast (objects : List Object) (o : Object) : Prop
  | free (outside : ∀ holder, o.location ≠ .container holder)
  | astray {holder : Id} (inside : o.location = .container holder)
      (absent : ∀ o' ∈ objects, o'.id ≠ holder)

/-- Containers that are followed are there, and the ids are followed with them. -/
theorem reflTransGen_isHeldBy (hids : (objects.map (·.id)).Nodup) (ho : o ∈ objects)
    (h : ReflTransGen (StartsIn objects) o o') :
    o' ∈ objects ∧ ReflTransGen (IsHeldBy (startHolders objects)) o.id o'.id := by
  induction h with
  | refl => exact ⟨ho, .refl⟩
  | tail _ hstep ih =>
    exact ⟨hstep.1, ih.2.tail ((isHeldBy_startHolders_iff hids ih.1).mpr hstep.2)⟩

/-- What is reached by ids is an object that is reached, or is not there though an object that is
reached starts in it. -/
theorem exists_of_reflTransGen_isHeldBy (hids : (objects.map (·.id)).Nodup) (ho : o ∈ objects)
    (h : ReflTransGen (IsHeldBy (startHolders objects)) o.id x) :
    ∃ o' ∈ objects, ReflTransGen (StartsIn objects) o o' ∧
      (o'.id = x ∨ o'.location = .container x ∧ ∀ o'' ∈ objects, o''.id ≠ x) := by
  induction h with
  | refl => exact ⟨o, ho, .refl, .inl rfl⟩
  | @tail x holder _ hstep ih =>
    obtain ⟨o', ho', hreached, rfl | ⟨-, habsent⟩⟩ := ih
    · have hloc := (isHeldBy_startHolders_iff hids ho').mp hstep
      by_cases hthere : ∃ o'' ∈ objects, o''.id = holder
      · obtain ⟨o'', ho'', rfl⟩ := hthere
        exact ⟨o'', ho'', hreached.tail ⟨ho'', hloc⟩, .inl rfl⟩
      · exact ⟨o', ho', hreached, .inr ⟨hloc, fun o'' ho'' hid => hthere ⟨o'', ho'', hid⟩⟩⟩
    · obtain ⟨o'', ho'', hid⟩ := exists_of_mem_startHolders (mem_iff_isHeldBy.mpr ⟨holder, hstep⟩)
      exact (habsent o'' ho'' hid).elim

/-- The holders of an object never come to an end exactly when no last object is reached. -/
theorem endless_startHolders_iff (hids : (objects.map (·.id)).Nodup) (ho : o ∈ objects) :
    Endless (startHolders objects) o.id ↔
      ∀ o', ReflTransGen (StartsIn objects) o o' → ¬IsLast objects o' := by
  constructor
  · intro h o' hreached hlast
    obtain ⟨ho', hids'⟩ := reflTransGen_isHeldBy hids ho hreached
    obtain ⟨holder, hheld⟩ := mem_iff_isHeldBy.mp (h o'.id hids')
    have hloc := (isHeldBy_startHolders_iff hids ho').mp hheld
    cases hlast with
    | free houtside => exact houtside holder hloc
    | astray hinside habsent =>
      obtain rfl := Place.container.inj (hloc.symm.trans hinside)
      obtain ⟨o'', ho'', hid⟩ := exists_of_mem_startHolders (h holder (hids'.tail hheld))
      exact habsent o'' ho'' hid
  · intro h x hx
    obtain ⟨o', ho', hreached, rfl | ⟨hinside, habsent⟩⟩ :=
      exists_of_reflTransGen_isHeldBy hids ho hx
    · have hnotLast := h o' hreached
      cases hloc : o'.location with
      | container holder =>
        exact mem_iff_isHeldBy.mpr ⟨holder, (isHeldBy_startHolders_iff hids ho').mpr hloc⟩
      | _ => exact (hnotLast (.free (by simp [hloc]))).elim
    · exact (h o' hreached (.astray hinside habsent)).elim

/-- An object is inside itself exactly when its id is. -/
theorem transGen_startsIn_iff (hids : (objects.map (·.id)).Nodup) (ho : o ∈ objects) :
    TransGen (StartsIn objects) o o ↔ TransGen (IsHeldBy (startHolders objects)) o.id o.id := by
  constructor
  · intro h
    obtain ⟨o', hstep, hback⟩ := TransGen.head'_iff.mp h
    exact .head' ((isHeldBy_startHolders_iff hids ho).mpr hstep.2)
      (reflTransGen_isHeldBy hids hstep.1 hback).2
  · intro h
    obtain ⟨holder, hstep, hback⟩ := TransGen.head'_iff.mp h
    have hmem : holder ∈ startHolders objects := by
      rcases hback.cases_head with heq | ⟨_, hnext, -⟩
      · rw [heq]
        exact mem_of_transGen h
      · exact mem_iff_isHeldBy.mpr ⟨_, hnext⟩
    obtain ⟨o', ho', rfl⟩ := exists_of_mem_startHolders hmem
    have hfirst : StartsIn objects o o' := ⟨ho', (isHeldBy_startHolders_iff hids ho).mp hstep⟩
    obtain ⟨o'', ho'', hreached, hid | ⟨-, habsent⟩⟩ :=
      exists_of_reflTransGen_isHeldBy hids ho' hback
    · rw [List.inj_on_of_nodup_map hids ho'' ho hid] at hreached
      exact .head' hfirst hreached
    · exact (habsent o ho rfl).elim

/-! ## Reports -/

theorem mem_cyclicObjects_iff : id ∈ cyclicObjects objects ↔ Endless (startHolders objects) id := by
  unfold cyclicObjects
  rw [List.mem_filter, ExtTreeMap.mem_keys, comesBack_iff_endless, and_iff_right_iff_imp]
  exact fun h => h id .refl

theorem nodup_cyclicObjects : (cyclicObjects objects).Nodup := by
  refine List.Nodup.filter _ (ExtTreeMap.distinct_keys.imp fun hne heq => ?_)
  exact hne (by rw [heq]; exact ReflCmp.compare_self)

theorem mem_cycleFaults_iff {f : Fault} : f ∈ cycleFaults objects ↔
    ∃ id ∈ cyclicObjects objects, f = .invalidValue (.containmentCycle id) := by
  unfold cycleFaults
  rw [List.mem_mergeSort, List.mem_map]
  simp only [eq_comm]

theorem containmentCycle_mem_iff :
    Fault.invalidValue (.containmentCycle id) ∈ cycleFaults objects ↔
      Endless (startHolders objects) id := by
  rw [mem_cycleFaults_iff, ← mem_cyclicObjects_iff]
  simp

theorem nodup_cycleFaults : (cycleFaults objects).Nodup := by
  unfold cycleFaults
  rw [(List.mergeSort_perm _ _).nodup_iff]
  refine List.Nodup.map (fun id id' h => ?_) nodup_cyclicObjects
  exact Flaw.containmentCycle.inj (Fault.invalidValue.inj h)

/-- Nothing is reported exactly when nothing is inside itself. -/
theorem cycleFaults_eq_nil_iff : cycleFaults objects = [] ↔
    ∀ x, ¬ TransGen (IsHeldBy (startHolders objects)) x x := by
  rw [List.eq_nil_iff_forall_not_mem]
  constructor
  · intro h x hcycle
    exact h _ (containmentCycle_mem_iff.mpr (endless_of_cycle .refl hcycle))
  · intro h f hf
    obtain ⟨id, hid, -⟩ := mem_cycleFaults_iff.mp hf
    obtain ⟨y, -, hcycle⟩ :=
      comesBack_iff_cycle.mp (comesBack_iff_endless.mpr (mem_cyclicObjects_iff.mp hid))
    exact h y hcycle

/-- **Cycles of containment are reported.** With distinct ids every walk from an object has at most
as many turns as there are objects. Only objects are reported, and each only once: an object is
reported when the walk from it comes back to an object that has been seen, and this is so exactly
when following the containers never leads to an object that starts in none or in one that is not
there. Nothing is reported exactly when no object is inside itself. -/
theorem cycles_reported (hids : (objects.map (·.id)).Nodup) :
    (∀ o ∈ objects, ∀ turns,
      List.IsChain (IsTurn (startHolders objects)) (([], o.id) :: turns) →
        turns.length ≤ objects.length) ∧
    (∀ f ∈ cycleFaults objects, ∃ o ∈ objects, f = .invalidValue (.containmentCycle o.id)) ∧
    (cycleFaults objects).Nodup ∧
    (∀ o ∈ objects,
      (Fault.invalidValue (.containmentCycle o.id) ∈ cycleFaults objects ↔
        ∃ seen x, ReflTransGen (IsTurn (startHolders objects)) ([], o.id) (seen, x) ∧
          x ∈ startHolders objects ∧ x ∈ seen) ∧
      (Fault.invalidValue (.containmentCycle o.id) ∈ cycleFaults objects ↔
        ∀ o', ReflTransGen (StartsIn objects) o o' → ¬IsLast objects o')) ∧
    (cycleFaults objects = [] ↔ ∀ o ∈ objects, ¬TransGen (StartsIn objects) o o) := by
  refine ⟨fun o _ turns hturns => ?_, fun f hf => ?_, nodup_cycleFaults, fun o ho => ⟨?_, ?_⟩, ?_⟩
  · exact Nat.le_trans (length_turns_le hturns) length_unseen_startHolders_le
  · obtain ⟨id, hid, rfl⟩ := mem_cycleFaults_iff.mp hf
    obtain ⟨o, ho, rfl⟩ := exists_of_mem_startHolders (mem_cyclicObjects_iff.mp hid id .refl)
    exact ⟨o, ho, rfl⟩
  · rw [containmentCycle_mem_iff, ← comesBack_iff_endless, comesBack_iff_turns]
  · rw [containmentCycle_mem_iff, endless_startHolders_iff hids ho]
  · rw [cycleFaults_eq_nil_iff]
    constructor
    · exact fun h o ho hcycle => h o.id ((transGen_startsIn_iff hids ho).mp hcycle)
    · intro h x hcycle
      obtain ⟨o, ho, rfl⟩ := exists_of_mem_startHolders (mem_of_transGen hcycle)
      exact h o ho ((transGen_startsIn_iff hids ho).mpr hcycle)

/-! ### A warehouse -/

/-- An object inside a container. -/
def stowed (id holder : Id) : Object where
  id := id
  name := id
  desc := { text := "" }
  location := .container holder

/-- Two crates inside each other, a lamp in one of them, and a box in something that is not
there. -/
def warehouse : List Object :=
  [stowed "crate" "chest", stowed "chest" "crate", stowed "lamp" "crate", stowed "box" "attic"]

/-- The lamp is reported though it is on no cycle itself, since it is in a crate that is; the box is
not reported. -/
theorem warehouse_cycles : (warehouse.map (·.id)).Nodup ∧
    Fault.invalidValue (.containmentCycle "lamp") ∈ cycleFaults warehouse ∧
    Fault.invalidValue (.containmentCycle "box") ∉ cycleFaults warehouse := by
  have hids : (warehouse.map (·.id)).Nodup := by decide
  obtain ⟨-, -, -, hreported, -⟩ := cycles_reported hids
  refine ⟨hids, ?_, fun hbox => ?_⟩
  · -- the crate is seen again after three turns
    refine (hreported (stowed "lamp" "crate") (by decide)).1.mpr
      ⟨["chest", "crate", "lamp"], "crate", ?_, by decide +kernel, by decide⟩
    have hlamp : IsHeldBy (startHolders warehouse) "lamp" "crate" := by
      unfold IsHeldBy
      decide +kernel
    have hcrate : IsHeldBy (startHolders warehouse) "crate" "chest" := by
      unfold IsHeldBy
      decide +kernel
    have hchest : IsHeldBy (startHolders warehouse) "chest" "crate" := by
      unfold IsHeldBy
      decide +kernel
    exact .head (.step hlamp (by decide)) (.head (.step hcrate (by decide))
      (.single (.step hchest (by decide))))
  · exact (hreported (stowed "box" "attic") (by decide)).2.mp hbox _ .refl
      (.astray rfl (by decide))

end TextAdventure.Authored
