import TextAdventure.Proofs.Play.Seeing
import TextAdventure.Proofs.State.Start
import TextAdventure.Proofs.World.Flags
import TextAdventure.Snapshot

/-!
# Restored states

Which snapshots are accepted, and what is made of them. A snapshot is `Consistent` when every name
in it exists, nothing is listed for two holders and nothing inside itself; it is `unpacked` by
taking over what it lists, without asking. Restoring does both in one pass, one list after the
other: it goes through exactly for consistent snapshots, and gives the unpacked state with its
light brought up to date (`restore_eq_ok_iff`).

* **one list** — each restored part goes through exactly when what it asks of every entry holds
  (`restoreFlags_eq_ok_iff`, `restoreContainers_eq_ok_iff` and the like);
* **the holders** — the check of them passes exactly when every object has one holder at most and
  nothing is inside itself (`checkHolders_eq_ok_iff`);
* **the state** — a holder holds what the snapshot lists for it (`holds_restore`), so that the
  state is well placed (`wellPlaced_restore`).
-/

namespace TextAdventure.Snapshot

open Std Relation GameState

variable {w : World} {s : GameState} {snap : Snapshot}

/-! ## The check of the holders -/

/-- The check passes exactly when no object has two holders and nothing is inside itself. -/
theorem checkHolders_eq_ok_iff {u : Unit} :
    checkHolders s = .ok u ↔ s.OneHolder ∧ s.Acyclic := by
  unfold checkHolders
  cases hheld : repeated s.held with
  | cons o rest =>
    have htwice : ¬ s.OneHolder := by
      rw [← held_nodup_iff, ← repeated_eq_nil_iff, hheld]
      exact List.cons_ne_nil o rest
    simp [htwice]
  | nil =>
    have hs : s.OneHolder := held_nodup_iff.mp (repeated_eq_nil_iff.mp hheld)
    simp only [hs, true_and]
    cases hfind : s.containers.keys.find? fun id => (s.enclosing id).contains id with
    | some c =>
      have hcycle : TransGen s.Inside c c := by
        have hmem := List.find?_some hfind
        exact (mem_enclosing_iff hs).mp (List.contains_iff_mem.mp hmem)
      constructor
      · intro h
        cases h
      · intro ha
        exact (ha c hcycle).elim
    | none =>
      refine ⟨fun _ c hcycle => ?_, fun _ => rfl⟩
      have hkey := ExtTreeMap.mem_keys.mpr (mem_containers_of_transGen hcycle)
      refine List.find?_eq_none.mp hfind c hkey ?_
      exact List.contains_iff_mem.mpr ((mem_enclosing_iff hs).mpr hcycle)

/-! ## Names -/

section Names

variable {context : String} {id : Id} {u : Unit}

theorem knowObject_eq_ok_iff : knowObject w context id = .ok u ↔ w.hasObject id = true := by
  unfold knowObject
  split <;> simp [*]

theorem knowScene_eq_ok_iff : knowScene w context id = .ok u ↔ w.hasScene id = true := by
  unfold knowScene
  split <;> simp [*]

theorem checkFlag_eq_ok_iff {f : Flag} : checkFlag w f = .ok u ↔ w.Knows f := by
  unfold checkFlag World.Knows
  cases f <;> simp [knowObject_eq_ok_iff, knowScene_eq_ok_iff]

end Names

/-! ## One list -/

section Lists

variable {flags flags' : FlagSet} {m m' : ExtTreeMap Id (ExtTreeSet Id)}
  {entries : List (Id × List Id)}

/-- Takes over a flag of a snapshot. -/
def takeFlag (flags : FlagSet) (entry : String × Bool) : FlagSet :=
  flags.assign (Flag.ofText entry.1) entry.2

/-- Takes over the mark of a visited scene. -/
def takeMark (flags : FlagSet) (scene : Id) : FlagSet := flags.insert (.sceneVisited scene)

/-- One holder more is filled with what is listed for it. -/
def refill (m : ExtTreeMap Id (ExtTreeSet Id)) (entry : Id × List Id) :
    ExtTreeMap Id (ExtTreeSet Id) :=
  m.insert entry.1 ((m.getD entry.1 ∅).insertMany entry.2)

theorem restoreFlags_eq_ok_iff {entries : List (String × Bool)} :
    entries.foldlM (restoreFlag w) flags = .ok flags' ↔
      (∀ e ∈ entries, w.Knows (Flag.ofText e.1)) ∧ flags' = entries.foldl takeFlag flags := by
  refine foldlM_eq_ok_iff fun flags e _ flags' => ?_
  unfold restoreFlag
  simp only [bind_eq_ok, pure_eq_ok, checkFlag_eq_ok_iff, exists_const, eq_comm (b := flags')]
  rfl

theorem restoreVisited_eq_ok_iff {scenes : List Id} :
    scenes.foldlM (restoreVisited w) flags = .ok flags' ↔
      (∀ scene ∈ scenes, w.hasScene scene = true) ∧ flags' = scenes.foldl takeMark flags := by
  refine foldlM_eq_ok_iff fun flags scene _ flags' => ?_
  unfold restoreVisited
  simp only [bind_eq_ok, pure_eq_ok, knowScene_eq_ok_iff, exists_const, eq_comm (b := flags')]
  rfl

/-- What holds at the end held before or was listed. -/
theorem of_has_foldl_takeFlag {entries : List (String × Bool)} {f : Flag}
    (h : (entries.foldl takeFlag flags).has f = true) :
    flags.has f = true ∨ ∃ e ∈ entries, Flag.ofText e.1 = f := by
  induction entries generalizing flags with
  | nil => exact .inl h
  | cons e rest ih =>
    rw [List.exists_mem_cons_iff]
    rcases ih h with hhere | hlater
    · rw [takeFlag, FlagSet.has_assign] at hhere
      split at hhere
      · rename_i heq
        exact .inr (.inl heq)
      · exact .inl hhere
    · exact .inr (.inr hlater)

theorem has_foldl_takeMark {scenes : List Id} {f : Flag} :
    (scenes.foldl takeMark flags).has f = true ↔
      flags.has f = true ∨ ∃ scene ∈ scenes, Flag.sceneVisited scene = f := by
  induction scenes generalizing flags with
  | nil => simp
  | cons scene rest ih =>
    rw [List.foldl_cons, ih, takeMark, FlagSet.has_insert, Bool.or_eq_true, decide_eq_true_iff,
      List.exists_mem_cons_iff, or_comm (a := Flag.sceneVisited scene = f), or_assoc]

theorem restoreItems_eq_ok_iff {context : String} {items items' : ExtTreeSet Id}
    {list : List Id} : restoreItems w context items list = .ok items' ↔
      (∀ id ∈ list, w.hasObject id = true) ∧ items' = items.insertMany list := by
  rw [ExtTreeSet.insertMany_list_eq_foldl]
  refine foldlM_eq_ok_iff fun items id _ items' => ?_
  simp only [bind_eq_ok, pure_eq_ok, knowObject_eq_ok_iff, exists_const, eq_comm (b := items')]

theorem restoreContainers_eq_ok_iff : entries.foldlM (restoreContainer w) m = .ok m' ↔
    (∀ e ∈ entries, w.HasPlace (.container e.1) ∧ ∀ id ∈ e.2, w.hasObject id = true) ∧
      m' = entries.foldl refill m := by
  refine foldlM_eq_ok_iff fun m e _ m' => ?_
  unfold restoreContainer
  simp only [bind_eq_ok, World.object_eq_ok, knowObject_eq_ok_iff]
  constructor
  · rintro ⟨-, -, o, ho, h⟩
    split at h
    · cases h
    · rename_i hcont
      simp only [bind_eq_ok, pure_eq_ok, restoreItems_eq_ok_iff] at h
      obtain ⟨_, ⟨hlist, rfl⟩, rfl⟩ := h
      exact ⟨⟨⟨o, ho, by simpa using hcont⟩, hlist⟩, rfl⟩
  · rintro ⟨⟨⟨o, ho, hcont⟩, hlist⟩, rfl⟩
    refine ⟨(), World.hasObject_iff.mpr ⟨o, ho⟩, o, ho, ?_⟩
    simp only [hcont, restoreItems_eq_ok_iff.mpr ⟨hlist, rfl⟩]
    rfl

theorem restoreScenes_eq_ok_iff : entries.foldlM (restoreScene w) m = .ok m' ↔
    (∀ e ∈ entries, w.HasPlace (.scene e.1) ∧ ∀ id ∈ e.2, w.hasObject id = true) ∧
      m' = entries.foldl refill m := by
  refine foldlM_eq_ok_iff fun m e _ m' => ?_
  unfold restoreScene
  simp only [bind_eq_ok, pure_eq_ok, knowScene_eq_ok_iff, restoreItems_eq_ok_iff]
  constructor
  · rintro ⟨_, hscene, _, ⟨hlist, rfl⟩, rfl⟩
    exact ⟨⟨hscene, hlist⟩, rfl⟩
  · rintro ⟨⟨hscene, hlist⟩, rfl⟩
    exact ⟨(), hscene, _, ⟨hlist, rfl⟩, rfl⟩

theorem ofList_toList {α : Type} {m : ExtTreeMap Id α} : ExtTreeMap.ofList m.toList = m := by
  refine ExtTreeMap.ext_getElem? fun c => ?_
  cases hm : m[c]? with
  | none =>
    rw [ExtTreeMap.getElem?_ofList_of_contains_eq_false]
    have hc : c ∉ m := fun hc => by
      rw [ExtTreeMap.mem_iff_isSome_getElem?, hm] at hc
      cases hc
    simpa using hc
  | some v =>
    exact ExtTreeMap.getElem?_ofList_of_mem ReflCmp.compare_self m.distinct_keys_toList
      (ExtTreeMap.mem_toList_iff_getElem?_eq_some.mpr hm)

theorem forall_mem_toList_iff {κ α : Type} [Ord κ] [TransOrd κ] [LawfulEqOrd κ]
    {m : ExtTreeMap κ α} {P : κ → Prop} : (∀ e ∈ m.toList, P e.1) ↔ ∀ k ∈ m, P k := by
  constructor
  · intro h k hk
    obtain ⟨v, hv⟩ := Option.isSome_iff_exists.mp (ExtTreeMap.mem_iff_isSome_getElem?.mp hk)
    exact h (k, v) (ExtTreeMap.mem_toList_iff_getElem?_eq_some.mpr hv)
  · intro h e he
    refine h e.1 (ExtTreeMap.mem_iff_isSome_getElem?.mpr ?_)
    rw [ExtTreeMap.mem_toList_iff_getElem?_eq_some.mp he]
    rfl

/-- Use is restored exactly when it is of light sources. -/
theorem restoreUsage_eq_ok_iff {usage usage' : ExtTreeMap Id Nat} :
    usage.toList.foldlM (restoreUsage w) ∅ = .ok usage' ↔
      (∀ id ∈ usage, ∃ o : Object, w.objects[id]? = some o ∧ o.isLightSource = true) ∧
        usage' = usage := by
  have hlist : usage' = usage ↔ usage' = usage.toList.foldl (fun m e => m.insert e.1 e.2) ∅ := by
    rw [← ExtTreeMap.ofList_eq_foldl, ofList_toList]
  rw [hlist, ← forall_mem_toList_iff]
  refine foldlM_eq_ok_iff fun usage e _ usage' => ?_
  unfold restoreUsage
  simp only [bind_eq_ok, World.object_eq_ok, knowObject_eq_ok_iff]
  constructor
  · rintro ⟨-, -, o, ho, h⟩
    split at h
    · cases h
    · rename_i hlamp
      exact ⟨⟨o, ho, by simpa using hlamp⟩, (pure_eq_ok.mp h).symm⟩
  · rintro ⟨⟨o, ho, hlamp⟩, rfl⟩
    refine ⟨(), World.hasObject_iff.mpr ⟨o, ho⟩, o, ho, ?_⟩
    rw [hlamp]
    rfl

theorem mem_foldl_refill {c : Id} :
    c ∈ entries.foldl refill m ↔ c ∈ m ∨ ∃ list, (c, list) ∈ entries := by
  induction entries generalizing m with
  | nil => simp
  | cons e rest ih =>
    obtain ⟨d, list⟩ := e
    rw [List.foldl_cons, ih]
    simp only [refill, ExtTreeMap.mem_insert, LawfulEqCmp.compare_eq_iff_eq, List.mem_cons,
      Prod.mk.injEq]
    constructor
    · rintro ((rfl | h) | ⟨l, h⟩)
      · exact .inr ⟨list, .inl ⟨rfl, rfl⟩⟩
      · exact .inl h
      · exact .inr ⟨l, .inr h⟩
    · rintro (h | ⟨l, ⟨rfl, rfl⟩ | h⟩)
      · exact .inl (.inr h)
      · exact .inl (.inl rfl)
      · exact .inr ⟨l, h⟩

theorem mem_getD_foldl_refill {c o : Id} :
    o ∈ (entries.foldl refill m).getD c ∅ ↔
      o ∈ m.getD c ∅ ∨ ∃ list, (c, list) ∈ entries ∧ o ∈ list := by
  induction entries generalizing m with
  | nil => simp
  | cons e rest ih =>
    obtain ⟨d, list⟩ := e
    have hhere : o ∈ (refill m (d, list)).getD c ∅ ↔ o ∈ m.getD c ∅ ∨ (c = d ∧ o ∈ list) := by
      unfold refill
      rw [ExtTreeMap.getD_insert]
      by_cases hd : d = c
      · subst hd
        simp [ExtTreeSet.mem_insertMany_list]
      · simp [hd, Ne.symm hd]
    rw [List.foldl_cons, ih, hhere, or_assoc]
    refine or_congr_right ?_
    simp only [List.mem_cons, Prod.mk.injEq]
    constructor
    · rintro (⟨rfl, ho⟩ | ⟨l, hl, ho⟩)
      · exact ⟨list, .inl ⟨rfl, rfl⟩, ho⟩
      · exact ⟨l, .inr hl, ho⟩
    · rintro ⟨l, ⟨rfl, rfl⟩ | hl, ho⟩
      · exact .inl ⟨rfl, ho⟩
      · exact .inr ⟨l, hl, ho⟩

end Lists

/-! ## Consistent snapshots -/

/-- The snapshot lists the object for the place. -/
def Lists (snap : Snapshot) : Place → Id → Prop
  | .inventory, o => o ∈ snap.inventory
  | .container c, o => o ∈ snap.containers.getD c []
  | .scene c, o => o ∈ snap.scenes.getD c []
  | .nowhere, _ => False

/-- The snapshot fits the world: it speaks of this world and of what exists in it, lists every
object for one holder at most and nothing inside itself. -/
structure Consistent (w : World) (snap : Snapshot) : Prop where
  world : w.slug = "" ∨ snap.world = "" ∨ snap.world = w.slug
  here : w.hasScene snap.currentScene = true
  visited : ∀ scene ∈ snap.visited, w.hasScene scene = true
  flags : ∀ text ∈ snap.flags, w.Knows (Flag.ofText text)
  listed : ∀ p o, snap.Lists p o → w.hasObject o = true
  containers : ∀ c ∈ snap.containers, w.HasPlace (.container c)
  scenes : ∀ c ∈ snap.scenes, w.HasPlace (.scene c)
  single : ∀ o p q, snap.Lists p o → snap.Lists q o → p = q
  acyclic : ∀ o, ¬ TransGen (fun x c => snap.Lists (.container c) x) o o
  lightUsage : ∀ id ∈ snap.lightUsage,
    ∃ o : Object, w.objects[id]? = some o ∧ o.isLightSource = true

/-- What the snapshot lists, taken over without asking whether it fits. -/
def unpacked (w : World) (snap : Snapshot) : GameState :=
  { withHolders w snap.currentScene with
    flags := snap.visited.foldl takeMark (snap.flags.toList.foldl takeFlag .empty)
    inventory := (∅ : ExtTreeSet Id).insertMany snap.inventory
    containers := snap.containers.toList.foldl refill
      (withHolders w snap.currentScene).containers
    scenes := snap.scenes.toList.foldl refill (withHolders w snap.currentScene).scenes
    score := snap.score
    turnCount := snap.turnCount
    lightUsage := snap.lightUsage }

theorem exists_mem_toList_iff {m : ExtTreeMap Id (List Id)} {c o : Id} :
    (∃ list, (c, list) ∈ m.toList ∧ o ∈ list) ↔ o ∈ m.getD c [] := by
  simp only [ExtTreeMap.mem_toList_iff_getElem?_eq_some, ExtTreeMap.getD_eq_getD_getElem?]
  cases m[c]? <;> simp

/-- A holder of the unpacked state holds what is listed for it. -/
theorem holds_unpacked {p : Place} {o : Id} :
    (snap.unpacked w).Holds p o ↔ snap.Lists p o := by
  cases p with
  | nowhere => exact ⟨not_holds_nowhere, False.elim⟩
  | inventory =>
    rw [holds_inventory]
    show o ∈ (∅ : ExtTreeSet Id).insertMany snap.inventory ↔ _
    rw [ExtTreeSet.mem_insertMany_list, List.contains_iff_mem]
    exact or_iff_right ExtTreeSet.not_mem_empty
  | container c =>
    rw [holds_container]
    show o ∈ (snap.containers.toList.foldl refill _).getD c ∅ ↔ _
    rw [mem_getD_foldl_refill, exists_mem_toList_iff]
    exact or_iff_right fun ho => not_holds_withHolders (holds_container.mpr ho)
  | scene c =>
    rw [holds_scene]
    show o ∈ (snap.scenes.toList.foldl refill _).getD c ∅ ↔ _
    rw [mem_getD_foldl_refill, exists_mem_toList_iff]
    exact or_iff_right fun ho => not_holds_withHolders (holds_scene.mpr ho)

/-- One list for each holder: the holders and all that they list exist. -/
theorem forall_entries_iff {m : ExtTreeMap Id (List Id)} {place : Id → Place} :
    (∀ e ∈ m.toList, w.HasPlace (place e.1) ∧ ∀ id ∈ e.2, w.hasObject id = true) ↔
      (∀ c ∈ m, w.HasPlace (place c)) ∧ ∀ c, ∀ o ∈ m.getD c [], w.hasObject o = true := by
  rw [← forall_mem_toList_iff]
  constructor
  · intro h
    refine ⟨fun e he => (h e he).1, fun c o ho => ?_⟩
    obtain ⟨list, hlist, ho⟩ := exists_mem_toList_iff.mpr ho
    exact (h (c, list) hlist).2 o ho
  · rintro ⟨hplace, hlisted⟩ e he
    exact ⟨hplace e he, fun id hid => hlisted e.1 id (exists_mem_toList_iff.mp ⟨e.2, he, hid⟩)⟩

/-! ## The state -/

/-- **Restoring** goes through for consistent snapshots only, and gives what they list, with the
light brought up to date. -/
theorem restore_eq_ok_iff :
    snap.restore w = .ok s ↔ snap.Consistent w ∧ (snap.unpacked w).relit w = .ok s := by
  have hworld : (!w.slug.isEmpty && !snap.world.isEmpty && snap.world != w.slug) = true ↔
      ¬ (w.slug = "" ∨ snap.world = "" ∨ snap.world = w.slug) := by
    simp [and_assoc]
  have hsingle : (snap.unpacked w).OneHolder ↔
      ∀ o p q, snap.Lists p o → snap.Lists q o → p = q := by
    simp only [OneHolder, holds_unpacked]
  have hacyclic : (snap.unpacked w).Acyclic ↔
      ∀ o, ¬ TransGen (fun x c => snap.Lists (.container c) x) o o := by
    have hinside : (snap.unpacked w).Inside = fun x c => snap.Lists (.container c) x := by
      funext x c
      exact propext holds_unpacked
    rw [Acyclic, hinside]
  have hknown : (∀ e ∈ snap.flags.toList, w.Knows (Flag.ofText e.1)) ↔
      ∀ text ∈ snap.flags, w.Knows (Flag.ofText text) :=
    forall_mem_toList_iff (P := fun text => w.Knows (Flag.ofText text))
  unfold restore
  split
  · rename_i hother
    refine ⟨fun h => (by cases h), fun h => (hworld.mp hother h.1.world).elim⟩
  rename_i hfits
  simp only [bind_eq_ok, knowScene_eq_ok_iff, restoreFlags_eq_ok_iff, restoreVisited_eq_ok_iff,
    restoreItems_eq_ok_iff, restoreContainers_eq_ok_iff, restoreScenes_eq_ok_iff,
    checkHolders_eq_ok_iff, restoreUsage_eq_ok_iff, forall_entries_iff, hknown]
  constructor
  · rintro ⟨-, hhere, _, ⟨hflags, rfl⟩, _, ⟨hvisited, rfl⟩, _, ⟨hcarried, rfl⟩,
      _, ⟨⟨hcontainers, hinside⟩, rfl⟩, _, ⟨⟨hscenes, hlying⟩, rfl⟩, _, ⟨hone, hnocycle⟩,
      _, ⟨husage, rfl⟩, hlit⟩
    -- the check was made before the use of the light sources was taken over
    have hone := SameHolders.oneHolder (t := snap.unpacked w) ⟨rfl, rfl, rfl⟩ hone
    have hnocycle := SameHolders.acyclic (t := snap.unpacked w) ⟨rfl, rfl, rfl⟩ hnocycle
    refine ⟨⟨not_not.mp (hworld.not.mp hfits), hhere, hvisited, hflags, ?_, hcontainers, hscenes,
      hsingle.mp hone, hacyclic.mp hnocycle, husage⟩, hlit⟩
    intro p o hlists
    cases p with
    | nowhere => exact hlists.elim
    | inventory => exact hcarried o hlists
    | container c => exact hinside c o hlists
    | scene c => exact hlying c o hlists
  · rintro ⟨h, hlit⟩
    have hone := hsingle.mpr h.single
    have hnocycle := hacyclic.mpr h.acyclic
    exact ⟨(), h.here, _, ⟨h.flags, rfl⟩, _, ⟨h.visited, rfl⟩, _, ⟨h.listed .inventory, rfl⟩,
      _, ⟨⟨h.containers, fun c => h.listed (.container c)⟩, rfl⟩,
      _, ⟨⟨h.scenes, fun c => h.listed (.scene c)⟩, rfl⟩,
      (), ⟨SameHolders.oneHolder ⟨rfl, rfl, rfl⟩ hone,
        SameHolders.acyclic ⟨rfl, rfl, rfl⟩ hnocycle⟩, _, ⟨h.lightUsage, rfl⟩, hlit⟩

/-- What a consistent snapshot lists is well placed. -/
theorem Consistent.wellPlaced (h : snap.Consistent w) : WellPlaced w (snap.unpacked w) where
  single o p q hp hq := h.single o p q (holds_unpacked.mp hp) (holds_unpacked.mp hq)
  known p o hp := h.listed p o (holds_unpacked.mp hp)
  containers c hc := by
    rcases mem_foldl_refill.mp hc with hblank | ⟨list, hlist⟩
    · exact wellPlaced_withHolders.containers c hblank
    · exact forall_mem_toList_iff.mpr h.containers (c, list) hlist
  scenes c hc := by
    rcases mem_foldl_refill.mp hc with hblank | ⟨list, hlist⟩
    · exact wellPlaced_withHolders.scenes c hblank
    · exact forall_mem_toList_iff.mpr h.scenes (c, list) hlist
  acyclic o hcycle :=
    h.acyclic o (TransGen.mono (fun _ _ hin => holds_unpacked.mp hin) o o hcycle)

/-- Every consistent snapshot is accepted. -/
theorem Consistent.restore_ok (h : snap.Consistent w) : ∃ s, snap.restore w = .ok s := by
  obtain ⟨s, hs⟩ := relit_ok h.wellPlaced.known h.here
  exact ⟨s, restore_eq_ok_iff.mpr ⟨h, hs⟩⟩

/-- A restored state is the unpacked one, but for the flag for light. -/
theorem onlyFlags_restore (h : snap.restore w = .ok s) :
    ∃ lit, s = { snap.unpacked w with flags := (snap.unpacked w).flags.assign .light lit } := by
  obtain ⟨-, hlit⟩ := restore_eq_ok_iff.mp h
  obtain ⟨lit, -, hs⟩ := relit_eq_ok_iff.mp hlit
  exact ⟨lit, hs⟩

theorem sameHolders_restore (h : snap.restore w = .ok s) : SameHolders (snap.unpacked w) s := by
  obtain ⟨lit, rfl⟩ := onlyFlags_restore h
  exact ⟨rfl, rfl, rfl⟩

/-- A holder of a restored state holds what is listed for it. -/
theorem holds_restore (h : snap.restore w = .ok s) {p : Place} {o : Id} :
    s.Holds p o ↔ snap.Lists p o := by
  rw [(sameHolders_restore h).holds_iff, holds_unpacked]

/-- **A restored state is well placed.** -/
theorem wellPlaced_restore (h : snap.restore w = .ok s) : WellPlaced w s :=
  (sameHolders_restore h).wellPlaced (restore_eq_ok_iff.mp h).1.wellPlaced

/-- The player of a restored state is in a scene. -/
theorem here_restore (h : snap.restore w = .ok s) : w.hasScene s.currentScene = true := by
  obtain ⟨lit, rfl⟩ := onlyFlags_restore h
  exact (restore_eq_ok_iff.mp h).1.here

end TextAdventure.Snapshot
