import TextAdventure.Proofs.State.Presence
import TextAdventure.Proofs.State.Weights

/-!
# Trees from above and from below

A tree is collected downwards, from the objects in a place into whatever they hold; where an
object ends up is found upwards, from holder to holder. With one holder at most for every object
and nothing inside itself, the two agree.

* **upwards** — an object is, in the end, in a place exactly when something directly in that place
  is around it or the object itself (`rootLocation_eq_iff`);
* **downwards** — collecting an object adds to a list the object and all that is inside it, each
  once and with the container around it, so that the guard against objects that are listed already
  never holds (`grown_collectFrom`, `grown_foldl`);
* **presence** — what is present is what is listed, even where something else goes round in a
  circle (`mem_present_iff`).
-/

namespace TextAdventure.GameState

open Std Relation

variable {s : GameState} {o x : Id} {p : Place} {holder : Option Id}
  {found : List (Id × Option Id)}

/-! ## Upwards -/

/-- An object is, in the end, where what is around it directly lies. -/
theorem rootLocation_eq_iff (hs : s.OneHolder) (hp : p ≠ .nowhere)
    (hcont : ∀ c, p ≠ .container c) :
    s.rootLocation o = p ↔ ∃ root, s.Holds p root ∧ ReflTransGen s.Inside o root := by
  constructor
  · intro h
    refine ⟨(s.enclosing o).getLast?.getD o, ?_, reaches_last⟩
    -- what is met last is in no container, or the object would end up nowhere
    unfold rootLocation at h
    cases hloc : s.locationOf ((s.enclosing o).getLast?.getD o) with
    | container c =>
      rw [hloc] at h
      exact (hp h.symm).elim
    | _ =>
      rw [hloc] at h
      exact (hs.locationOf_eq_iff hp).mp (hloc.trans h)
  · rintro ⟨root, hroot, hreach⟩
    exact rootLocation_eq hs hroot hcont hreach

/-- What is, in the end, in a place lies directly in it or in a container. -/
theorem exists_holder (hs : s.OneHolder) (hp : p ≠ .nowhere) (hcont : ∀ c, p ≠ .container c)
    (h : s.rootLocation o = p) :
    ∃ holder : Option Id, s.locationOf o = holder.elim p .container := by
  obtain ⟨root, hroot, hreach⟩ := (rootLocation_eq_iff hs hp hcont).mp h
  rcases ReflTransGen.cases_head hreach with rfl | ⟨c, hin, -⟩
  · exact ⟨none, hs.locationOf_eq hroot⟩
  · exact ⟨some c, hs.locationOf_eq hin⟩

/-! ## Downwards -/

/-- What collecting an object adds to a tree: the object, with the holder it is given, and
everything inside it with the container around it. -/
def Adds (s : GameState) (holder : Option Id) (o : Id) (entry : Id × Option Id) : Prop :=
  entry = (o, holder) ∨
    ∃ c, entry.2 = some c ∧ s.Inside entry.1 c ∧ ReflTransGen s.Inside c o

theorem Adds.reaches {entry : Id × Option Id} (h : s.Adds holder o entry) :
    ReflTransGen s.Inside entry.1 o := by
  rcases h with rfl | ⟨c, -, hin, hreach⟩
  · exact .refl
  · exact .head hin hreach

/-- What an object adds is itself and what each object that it holds adds. -/
theorem adds_iff {entry : Id × Option Id} : s.Adds holder o entry ↔
    entry = (o, holder) ∨ ∃ x ∈ s.contentsOf o, s.Adds (some o) x entry := by
  constructor
  · rintro (rfl | ⟨c, hc, hin, hreach⟩)
    · exact .inl rfl
    · -- on the last step into the object: the entry lies directly in it, or deeper
      rcases ReflTransGen.cases_tail hreach with rfl | ⟨x, hcx, hx⟩
      · exact .inr ⟨entry.1, hin, .inl (Prod.ext rfl hc)⟩
      · exact .inr ⟨x, hx, .inr ⟨c, hc, hin, hcx⟩⟩
  · rintro (rfl | ⟨x, hx, rfl | ⟨c, hc, hin, hreach⟩⟩)
    · exact .inl rfl
    · exact .inr ⟨o, rfl, hx, .refl⟩
    · exact .inr ⟨c, hc, hin, .tail hreach hx⟩

/-- Nothing that has been found lies in the object. -/
def Unmet (s : GameState) (found : List (Id × Option Id)) (o : Id) : Prop :=
  ∀ entry ∈ found, ¬ ReflTransGen s.Inside entry.1 o

theorem Unmet.any_eq_false (h : s.Unmet found o) : found.any (·.1 == o) = false := by
  rw [List.any_eq_false]
  intro entry hentry heq
  have hself : entry.1 = o := by simpa using heq
  exact h entry hentry (hself ▸ .refl)

theorem Unmet.not_mem (h : s.Unmet found o) : o ∉ found.map (·.1) := by
  intro hmem
  obtain ⟨entry, hentry, heq⟩ := List.mem_map.mp hmem
  exact h entry hentry (heq ▸ .refl)

/-- A tree has grown by new entries, and still lists every object once. -/
structure Grown (found tree : List (Id × Option Id)) (new : Id × Option Id → Prop) : Prop where
  mem : ∀ entry, entry ∈ tree ↔ entry ∈ found ∨ new entry
  once : (found.map (·.1)).Nodup → (tree.map (·.1)).Nodup

/-- Collecting objects of one place, one after the other, adds what each of them adds. What has
been collected for one of them lies in no other. -/
theorem grown_foldl (hs : s.OneHolder) (hp : ∀ c, p = .container c → ¬ TransGen s.Inside c c)
    {collect : List (Id × Option Id) → Id → List (Id × Option Id)} {ids : List Id}
    (hids : ids.Nodup) (hheld : ∀ x ∈ ids, s.Holds p x) (hunmet : ∀ x ∈ ids, s.Unmet found x)
    (hcollect : ∀ x ∈ ids, ∀ found, s.Unmet found x →
      Grown found (collect found x) (s.Adds holder x)) :
    Grown found (ids.foldl collect found) fun entry => ∃ x ∈ ids, s.Adds holder x entry := by
  induction ids generalizing found with
  | nil => exact ⟨fun entry => by simp, id⟩
  | cons x rest ih =>
    have hx := List.mem_cons_self (a := x) (l := rest)
    have hfirst := hcollect x hx found (hunmet x hx)
    have hrest : ∀ y ∈ rest, s.Unmet (collect found x) y := by
      intro y hy entry hentry hreach
      rcases (hfirst.mem entry).mp hentry with hold | hnew
      · exact hunmet y (List.mem_cons_of_mem _ hy) entry hold hreach
      · obtain rfl : x = y := eq_of_reaches_both hs hp (hheld x hx)
          (hheld y (List.mem_cons_of_mem _ hy)) hnew.reaches hreach
        exact (List.nodup_cons.mp hids).1 hy
    have hlater := ih (List.nodup_cons.mp hids).2
      (fun y hy => hheld y (List.mem_cons_of_mem _ hy)) hrest
      fun y hy => hcollect y (List.mem_cons_of_mem _ hy)
    rw [List.foldl_cons]
    refine ⟨fun entry => ?_, fun h => hlater.once (hfirst.once h)⟩
    rw [hlater.mem, hfirst.mem, or_assoc, List.exists_mem_cons_iff]

/-- Collecting an object that is nested no deeper than the recursion goes, and of which nothing
has been found, adds the object and everything inside it. -/
theorem grown_collectFrom (hs : s.OneHolder) {depth : Nat}
    (hdeep : s.NestedWithin depth o) (hunmet : s.Unmet found o) :
    Grown found (s.collectFrom depth holder found o) (s.Adds holder o) := by
  induction depth generalizing holder found o with
  | zero =>
    unfold collectFrom
    rw [hunmet.any_eq_false, if_neg Bool.false_ne_true]
    refine ⟨fun entry => ?_, fun h => List.nodup_cons.mpr ⟨hunmet.not_mem, h⟩⟩
    have hempty : ¬ ∃ x ∈ s.contentsOf o, s.Adds (some o) x entry := by
      rintro ⟨x, hx, -⟩
      exact hdeep x hx
    rw [adds_iff, or_iff_left hempty, List.mem_cons, or_comm]
  | succ depth ih =>
    unfold collectFrom
    rw [hunmet.any_eq_false, if_neg Bool.false_ne_true]
    have hcontents : (s.contentsOf o).Nodup := nodup_contentsAt (p := .container o)
    have hinner : ∀ x ∈ s.contentsOf o, s.Unmet ((o, holder) :: found) x := by
      -- the object is not inside what it holds, and nothing of that has been found
      intro x hx entry hentry hreach
      have hin : s.Inside x o := hx
      rcases List.mem_cons.mp hentry with rfl | hold
      · exact hdeep.not_inside (.tail' hreach hin)
      · exact hunmet entry hold (hreach.tail hin)
    have hcircle : ∀ c, Place.container o = .container c → ¬ TransGen s.Inside c c := by
      rintro c ⟨⟩
      exact hdeep.not_inside
    have hgrown := grown_foldl (p := .container o) hs hcircle hcontents (fun x hx => hx) hinner
      fun x hx found hfound => @ih x (some o) found (hdeep x hx) hfound
    refine ⟨fun entry => ?_, fun h =>
      hgrown.once (List.nodup_cons.mpr ⟨hunmet.not_mem, h⟩)⟩
    rw [hgrown.mem, List.mem_cons, adds_iff, or_assoc, or_left_comm]

/-! ## Whole trees -/

/-- A tree of what is in a place begins with nothing and grows by what each object adds. -/
theorem grown_treeOf (hs : s.OneHolder) (hcont : ∀ c, p ≠ .container c)
    (hdeep : ∀ root ∈ s.contentsAt p, s.NestedWithin s.containers.size root) :
    Grown [] ((s.contentsAt p).foldl (s.collectFrom s.containers.size none) [])
      fun entry => ∃ root ∈ s.contentsAt p, s.Adds none root entry :=
  grown_foldl hs (fun c hc => (hcont c hc).elim) nodup_contentsAt (fun _ hx => hx)
    (fun _ _ _ he => (List.not_mem_nil he).elim)
    fun x hx _ hfound => grown_collectFrom hs (hdeep x hx) hfound

/-- A tree of what is in a place lists everything that is, in the end, in the place, each object
once and with the container that directly holds it; what directly lies in the place is listed
without one. -/
theorem mem_treeOf_iff (hs : s.OneHolder) (hp : p ≠ .nowhere) (hcont : ∀ c, p ≠ .container c)
    (hdeep : ∀ root ∈ s.contentsAt p, s.NestedWithin s.containers.size root) :
    (o, holder) ∈ s.treeOf (s.contentsAt p) ↔
      s.rootLocation o = p ∧ s.locationOf o = holder.elim p .container := by
  unfold treeOf
  rw [List.mem_reverse, (grown_treeOf hs hcont hdeep).mem, or_iff_right List.not_mem_nil,
    rootLocation_eq_iff hs hp hcont]
  constructor
  · rintro ⟨root, hroot, heq | ⟨c, hc, hin, hreach⟩⟩
    · obtain ⟨rfl, rfl⟩ := Prod.mk.inj heq
      exact ⟨⟨o, hroot, .refl⟩, hs.locationOf_eq hroot⟩
    · obtain rfl : holder = some c := hc
      exact ⟨⟨root, hroot, .head hin hreach⟩, hs.locationOf_eq hin⟩
  · rintro ⟨⟨root, hroot, hreach⟩, hloc⟩
    refine ⟨root, hroot, ?_⟩
    -- the first step of the way out tells whether there is a container around the object
    rcases ReflTransGen.cases_head hreach with rfl | ⟨c, hin, hrest⟩
    · rw [hs.locationOf_eq hroot] at hloc
      cases holder with
      | none => exact .inl rfl
      | some c => exact (hcont c hloc).elim
    · rw [hs.locationOf_eq hin] at hloc
      cases holder with
      | none => exact (hcont c hloc.symm).elim
      | some c' =>
        obtain rfl := Place.container.inj hloc
        exact .inr ⟨c, rfl, hin, hrest⟩

/-- The tree lists exactly the objects that are, in the end, in the place, each of them once, and
with the container that directly holds it; those that lie in the place itself have none. -/
structure ListsAll (s : GameState) (p : Place) (tree : List (Id × Option Id)) : Prop where
  ids : ∀ o, o ∈ tree.map (·.1) ↔ s.rootLocation o = p
  once : (tree.map (·.1)).Nodup
  holder : ∀ o holder, (o, holder) ∈ tree → s.locationOf o = holder.elim p .container

theorem listsAll_treeOf (hs : s.OneHolder) (hp : p ≠ .nowhere) (hcont : ∀ c, p ≠ .container c)
    (hdeep : ∀ root ∈ s.contentsAt p, s.NestedWithin s.containers.size root) :
    s.ListsAll p (s.treeOf (s.contentsAt p)) where
  ids o := by
    constructor
    · intro ho
      obtain ⟨⟨_, holder⟩, hentry, rfl⟩ := List.mem_map.mp ho
      exact ((mem_treeOf_iff hs hp hcont hdeep).mp hentry).1
    · intro hroot
      obtain ⟨holder, hholder⟩ := exists_holder hs hp hcont hroot
      exact List.mem_map_of_mem ((mem_treeOf_iff hs hp hcont hdeep).mpr ⟨hroot, hholder⟩)
  once := by
    unfold treeOf
    rw [List.map_reverse, List.nodup_reverse]
    exact (grown_treeOf hs hcont hdeep).once List.nodup_nil
  holder o holder hentry := ((mem_treeOf_iff hs hp hcont hdeep).mp hentry).2

theorem listsAll_sceneTree (hs : s.OneHolder) (ha : s.Acyclic) (scene : Id) :
    s.ListsAll (.scene scene) (s.sceneTree scene) :=
  listsAll_treeOf hs Place.noConfusion (fun _ => Place.noConfusion) fun root _ =>
    ha.nestedWithin le_rfl root

theorem listsAll_inventoryTree (hs : s.OneHolder) (ha : s.Acyclic) :
    s.ListsAll .inventory s.inventoryTree :=
  listsAll_treeOf hs Place.noConfusion (fun _ => Place.noConfusion) fun root _ =>
    ha.nestedWithin le_rfl root

/-- What is present is in one of the two trees. -/
theorem isPresent_iff (hs : s.OneHolder) (ha : s.Acyclic) : s.isPresent o = true ↔
    o ∈ s.inventoryTree.map (·.1) ∨ o ∈ (s.sceneTree s.currentScene).map (·.1) := by
  rw [(listsAll_inventoryTree hs ha).ids, (listsAll_sceneTree hs ha _).ids]
  unfold isPresent
  cases s.rootLocation o <;> simp

/-- **What is present** is listed, in every state with one holder at most for every object: whatever
goes round in a circle has no way out, and so it is neither listed nor present. -/
theorem mem_present_iff (hs : s.OneHolder) : o ∈ s.present ↔ s.isPresent o = true := by
  have hcarried : s.ListsAll .inventory s.inventoryTree :=
    listsAll_treeOf hs Place.noConfusion (fun _ => Place.noConfusion) fun _ hroot =>
      nestedWithin_of_root hs hroot fun _ => Place.noConfusion
  have hhere : s.ListsAll (.scene s.currentScene) (s.sceneTree s.currentScene) :=
    listsAll_treeOf hs Place.noConfusion (fun _ => Place.noConfusion) fun _ hroot =>
      nestedWithin_of_root hs hroot fun _ => Place.noConfusion
  unfold present
  rw [List.map_append, List.mem_append, hcarried.ids, hhere.ids]
  unfold isPresent
  cases s.rootLocation o <;> simp

end TextAdventure.GameState
