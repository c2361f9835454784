import TextAdventure.Proofs.Play.Light
import TextAdventure.Proofs.Snapshot
import TextAdventure.Proofs.World.Flags

/-!
# Snapshots that are restored

A snapshot writes flags as text, lists the visited scenes once more and leaves out holders that are
empty; restoring it looks every name up again, starts from the empty holders of the world and finds
out by itself whether there is light. For a `Storable` state nothing is lost on the way: restoring
its snapshot gives the same state (`restore_snapshot`), as long as its flags can be read back from
their text.

* **flags** — each one is read back, and a visited scene is among them already
  (`takeFlags_snapshot`, `takeMarks_snapshot`);
* **holders** — with as many empty holders as the state has holders, filling in what is listed
  gives them all back (`refilled_occupied`).

So unpacking gives the state again (`unpacked_snapshot`), and what it says of its holders, the
snapshot says of its lists: the snapshot is consistent (`consistent_snapshot`).
-/

namespace TextAdventure

open Std GameState

variable {w : World} {s : GameState}

/-- Every container and every scene of the world is a holder. -/
structure GameState.Stocked (w : World) (s : GameState) : Prop where
  everyContainer : ∀ c, w.HasPlace (.container c) → c ∈ s.containers
  everyScene : ∀ c, w.HasPlace (.scene c) → c ∈ s.scenes

/-- Every flag that holds is about something that exists. -/
def GameState.Informed (w : World) (s : GameState) : Prop :=
  ∀ f, s.flags.has f = true → w.Knows f

/-- Only light sources have been used. -/
def GameState.Metered (w : World) (s : GameState) : Prop :=
  ∀ id ∈ s.lightUsage, ∃ o, w.objects[id]? = some o ∧ o.isLightSource = true

/-- Nothing in the state would be refused or changed by restoring it. -/
structure GameState.Storable (w : World) (s : GameState) : Prop extends
    WellPlaced w s, Stocked w s where
  here : w.hasScene s.currentScene = true
  informed : s.Informed w
  metered : s.Metered w
  fresh : s.Fresh w

/-- Every flag that holds is read back from its text. -/
def FlagSet.Readable (flags : FlagSet) : Prop :=
  ∀ f, flags.has f = true → Flag.ofText f.text = f

namespace GameState

/-- The empty holders of the world are all there. -/
theorem stocked_withHolders {scene : Id} : Stocked w (withHolders w scene) where
  everyContainer _ hc := mem_containers_withHolders.mpr hc
  everyScene _ hc := mem_scenes_withHolders.mpr hc

/-- Bringing the light up to date changes nothing in a fresh state. -/
theorem Fresh.relit (h : s.Fresh w) : s.relit w = .ok s := by
  refine relit_eq_ok_iff.mpr ⟨_, h, ?_⟩
  have hflags : s.flags.assign .light (s.flags.has .light) = s.flags := by
    refine FlagSet.ext fun f => ?_
    rw [FlagSet.has_assign]
    split
    · rename_i hf
      rw [hf]
    · rfl
  rw [hflags]

end GameState

namespace Snapshot

/-! ## Flags -/

/-- Texts whose flags hold add these flags. -/
theorem has_foldl_takeFlag {entries : List (String × Bool)} {flags : FlagSet} {f : Flag}
    (h : ∀ e ∈ entries, e.2 = true) :
    (entries.foldl takeFlag flags).has f = true ↔
      flags.has f = true ∨ ∃ e ∈ entries, Flag.ofText e.1 = f := by
  induction entries generalizing flags with
  | nil => simp
  | cons e rest ih =>
    rw [List.foldl_cons, ih fun e he => h e (List.mem_cons_of_mem _ he), takeFlag,
      FlagSet.has_assign, h e (List.mem_cons_self ..), List.exists_mem_cons_iff]
    by_cases hf : Flag.ofText e.1 = f <;> simp [hf]

/-- The entries of a snapshot for flags are the texts of the flags that hold. -/
theorem mem_flags_snapshot {text : String} {value : Bool} :
    (text, value) ∈ (s.snapshot w).flags.toList ↔
      value = true ∧ ∃ f, s.flags.has f = true ∧ f.text = text := by
  have hentry : ∀ value, (text, value) ∈ s.flags.toList.map (fun flag => (flag.text, true)) ↔
      value = true ∧ ∃ f, s.flags.has f = true ∧ f.text = text := by
    intro value
    simp only [List.mem_map, FlagSet.mem_toList, Prod.mk.injEq]
    constructor
    · rintro ⟨f, hf, htext, rfl⟩
      exact ⟨rfl, f, hf, htext⟩
    · rintro ⟨rfl, f, hf, htext⟩
      exact ⟨f, hf, htext, rfl⟩
  rw [ExtTreeMap.mem_toList_iff_getElem?_eq_some]
  constructor
  · intro h
    exact (hentry value).mp (mem_of_getElem?_ofList h)
  · rintro ⟨rfl, f, hf, htext⟩
    -- the text is a key, and whatever it leads to is an entry of the list, which are all `true`
    have hkey : text ∈ (s.snapshot w).flags := by
      refine ExtTreeMap.mem_ofList.mpr (List.contains_iff_mem.mpr ?_)
      exact List.mem_map.mpr ⟨(text, true), (hentry true).mpr ⟨rfl, f, hf, htext⟩, rfl⟩
    obtain ⟨value, hvalue⟩ := Option.isSome_iff_exists.mp
      (ExtTreeMap.mem_iff_isSome_getElem?.mp hkey)
    rw [hvalue, ((hentry value).mp (mem_of_getElem?_ofList hvalue)).1]

/-- Flags that can be read back are taken over. -/
theorem takeFlags_snapshot (htext : s.flags.Readable) :
    (s.snapshot w).flags.toList.foldl takeFlag .empty = s.flags := by
  refine FlagSet.ext fun f => Bool.eq_iff_iff.mpr ?_
  rw [has_foldl_takeFlag fun e he => (mem_flags_snapshot.mp he).1, FlagSet.has_empty]
  constructor
  · rintro (h | ⟨e, he, rfl⟩)
    · cases h
    · obtain ⟨-, f, hf, hfe⟩ := mem_flags_snapshot.mp he
      rw [← hfe, htext f hf]
      exact hf
  · exact fun hf => .inr ⟨(f.text, true), mem_flags_snapshot.mpr ⟨rfl, f, hf, rfl⟩, htext f hf⟩

theorem mem_visitedScenes_iff {scene : Id} :
    scene ∈ s.visitedScenes ↔ s.flags.has (.sceneVisited scene) = true := by
  rw [← FlagSet.mem_toList]
  constructor
  · intro hscene
    obtain ⟨f, hf, heq⟩ := List.mem_filterMap.mp hscene
    cases f <;> cases heq
    exact hf
  · exact fun hf => List.mem_filterMap.mpr ⟨_, hf, rfl⟩

/-- The flags of the visited scenes hold already. -/
theorem takeMarks_snapshot : s.visitedScenes.foldl takeMark s.flags = s.flags := by
  refine FlagSet.ext fun f => Bool.eq_iff_iff.mpr ?_
  rw [has_foldl_takeMark]
  refine or_iff_left_of_imp ?_
  rintro ⟨scene, hscene, rfl⟩
  exact mem_visitedScenes_iff.mp hscene

/-! ## Holders -/

variable {m blank : ExtTreeMap Id (ExtTreeSet Id)}

/-- The holders with the same keys that list the same are the same. -/
theorem holders_ext {m m' : ExtTreeMap Id (ExtTreeSet Id)} (hkeys : ∀ c, c ∈ m ↔ c ∈ m')
    (hitems : ∀ c o, o ∈ m.getD c ∅ ↔ o ∈ m'.getD c ∅) : m = m' := by
  refine ExtTreeMap.ext_getElem? fun c => ?_
  have hsame : m.getD c ∅ = m'.getD c ∅ := ExtTreeSet.ext_mem (hitems c)
  rw [ExtTreeMap.getD_eq_getD_getElem?, ExtTreeMap.getD_eq_getD_getElem?] at hsame
  have hkey := hkeys c
  rw [ExtTreeMap.mem_iff_isSome_getElem?, ExtTreeMap.mem_iff_isSome_getElem?] at hkey
  cases hm : m[c]? <;> cases hm' : m'[c]? <;> simp_all

theorem mem_occupied {c : Id} {list : List Id} : (c, list) ∈ (occupied m).toList ↔
    ∃ items, m[c]? = some items ∧ items.isEmpty = false ∧ list = items.toList := by
  unfold occupied
  rw [ExtTreeMap.mem_toList_iff_getElem?_eq_some, ExtTreeMap.getElem?_map,
    ExtTreeMap.getElem?_filter']
  simp only [Option.map_eq_some_iff, Option.filter_eq_some_iff, Bool.not_eq_true']
  constructor
  · rintro ⟨items, ⟨hm, hne⟩, rfl⟩
    exact ⟨items, hm, hne, rfl⟩
  · rintro ⟨items, hm, hne, rfl⟩
    exact ⟨items, ⟨hm, hne⟩, rfl⟩

/-- Filling the empty holders with what the occupied ones list gives all holders back. -/
theorem refilled_occupied (hkeys : ∀ c, c ∈ blank ↔ c ∈ m)
    (hempty : ∀ c o, o ∉ blank.getD c ∅) : (occupied m).toList.foldl refill blank = m := by
  refine holders_ext (fun c => ?_) (fun c o => ?_)
  · rw [mem_foldl_refill, hkeys]
    refine or_iff_left_of_imp ?_
    rintro ⟨list, hlist⟩
    obtain ⟨items, hm, -⟩ := mem_occupied.mp hlist
    exact ExtTreeMap.mem_iff_isSome_getElem?.mpr (by rw [hm]; rfl)
  · rw [mem_getD_foldl_refill, or_iff_right (hempty c o), ExtTreeMap.getD_eq_getD_getElem?]
    constructor
    · rintro ⟨list, hlist, ho⟩
      obtain ⟨items, hm, -, rfl⟩ := mem_occupied.mp hlist
      rw [hm]
      exact ExtTreeSet.mem_toList.mp ho
    · intro ho
      cases hm : m[c]? with
      | none =>
        rw [hm] at ho
        exact (ExtTreeSet.not_mem_empty ho).elim
      | some items =>
        rw [hm] at ho
        refine ⟨items.toList, mem_occupied.mpr ⟨items, hm, ?_, rfl⟩, ExtTreeSet.mem_toList.mpr ho⟩
        refine ExtTreeSet.isEmpty_eq_false_iff.mpr ?_
        rintro rfl
        exact ExtTreeSet.not_mem_empty ho

/-! ## The state -/

/-- Unpacking a snapshot of a state gives the state, if its flags can be read back and all the
holders of the world are there. -/
theorem unpacked_snapshot (hs : WellPlaced w s) (hstocked : Stocked w s)
    (htext : s.flags.Readable) : (s.snapshot w).unpacked w = s := by
  have hcarried : (∅ : ExtTreeSet Id).insertMany s.inventory.toList = s.inventory := by
    refine ExtTreeSet.ext_mem fun o => ?_
    rw [ExtTreeSet.mem_insertMany_list, List.contains_iff_mem, ExtTreeSet.mem_toList]
    exact or_iff_right ExtTreeSet.not_mem_empty
  have hcontainers : (occupied s.containers).toList.foldl refill
      (withHolders w s.currentScene).containers = s.containers :=
    refilled_occupied
      (fun c => ⟨fun hc => hstocked.everyContainer c (mem_containers_withHolders.mp hc),
        fun hc => stocked_withHolders.everyContainer c (hs.containers c hc)⟩)
      fun c o ho => not_holds_withHolders (holds_container.mpr ho)
  have hscenes : (occupied s.scenes).toList.foldl refill
      (withHolders w s.currentScene).scenes = s.scenes :=
    refilled_occupied
      (fun c => ⟨fun hc => hstocked.everyScene c (mem_scenes_withHolders.mp hc),
        fun hc => stocked_withHolders.everyScene c (hs.scenes c hc)⟩)
      fun c o ho => not_holds_withHolders (holds_scene.mpr ho)
  have hflags : s.visitedScenes.foldl takeMark
      ((s.snapshot w).flags.toList.foldl takeFlag .empty) = s.flags := by
    rw [takeFlags_snapshot htext, takeMarks_snapshot]
  unfold unpacked
  simp only [GameState.snapshot] at hflags ⊢
  rw [hcarried, hcontainers, hscenes, hflags]
  rfl

theorem mem_of_mem_occupied {c : Id} (hc : c ∈ occupied m) : c ∈ m :=
  ExtTreeMap.mem_of_mem_filter (ExtTreeMap.mem_map.mp hc)

/-- A snapshot of a storable state is consistent. -/
theorem consistent_snapshot (hs : Storable w s) (htext : s.flags.Readable) :
    (s.snapshot w).Consistent w := by
  -- what is listed is what the state holds
  have hlists : ∀ {p : Place} {o : Id}, (s.snapshot w).Lists p o ↔ s.Holds p o := by
    intro p o
    rw [← @holds_unpacked w, unpacked_snapshot hs.toWellPlaced hs.toStocked htext]
  refine ⟨.inr (.inr rfl), hs.here, fun scene hscene => ?_, fun text hflag => ?_, fun p o h => ?_,
    fun c hc => hs.containers c (mem_of_mem_occupied hc),
    fun c hc => hs.scenes c (mem_of_mem_occupied hc), fun o p q hp hq => ?_, fun o hcycle => ?_,
    hs.metered⟩
  · exact hs.informed _ (mem_visitedScenes_iff.mp hscene)
  · obtain ⟨value, hvalue⟩ := Option.isSome_iff_exists.mp
      (ExtTreeMap.mem_iff_isSome_getElem?.mp hflag)
    obtain ⟨-, f, hf, rfl⟩ := mem_flags_snapshot.mp
      (ExtTreeMap.mem_toList_iff_getElem?_eq_some.mpr hvalue)
    rw [htext f hf]
    exact hs.informed f hf
  · exact hs.known p o (hlists.mp h)
  · exact hs.single o p q (hlists.mp hp) (hlists.mp hq)
  · exact hs.acyclic o (Relation.TransGen.mono (fun _ _ hin => hlists.mp hin) o o hcycle)

/-- **A snapshot of a storable state is restored to the same state.** -/
theorem restore_snapshot (hs : Storable w s) (htext : s.flags.Readable) :
    (s.snapshot w).restore w = .ok s := by
  refine restore_eq_ok_iff.mpr ⟨consistent_snapshot hs htext, ?_⟩
  rw [unpacked_snapshot hs.toWellPlaced hs.toStocked htext]
  exact hs.fresh.relit

end Snapshot

end TextAdventure
