import TextAdventure.Proofs.Saves.Shelf

/-!
# The lists of the shelf

The files of a folder are found in any order. What is made of them, the list of the slots, the list
that is shown and the slot that is loaded, does not depend on it (`Shelf.listed_of_found`).

* **names** — the name of a file can be told from its slot (`fileName_of_ofFileName?`), so that
  slots of one name differ in their versions and have one order;
* **stability** — what is sorted once more keeps this order where the second one leaves it open
  (`pairwise_mergeSort_of_pairwise`);
* **repetition** — in a sorted list, repetitions stand together (`pairwise_eraseReps`).
-/

namespace TextAdventure

/-! ## Sorted lists -/

section Sorting

variable {α : Type} {le : α → α → Bool} {r : α → α → Prop} {l : List α}

/-- A sorted list that is sorted once more keeps its order where the second one leaves it open. -/
theorem pairwise_mergeSort_of_pairwise
    (htrans : ∀ a b c, le a b = true → le b c = true → le a c = true)
    (htotal : ∀ a b, (le a b || le b a) = true) (h : l.Pairwise r) :
    (l.mergeSort le).Pairwise fun a b => le b a = true → r a b := by
  induction l with
  | nil => simp
  | cons a l ih =>
    obtain ⟨ha, hl⟩ := List.pairwise_cons.mp h
    -- in front of `a` there is only what must stand there
    obtain ⟨front, back, hsorted, hrest, hfront⟩ := List.mergeSort_cons htrans htotal a l
    have hmem : ∀ b ∈ back, b ∈ l := fun b hb =>
      List.mem_mergeSort.mp (hrest ▸ List.mem_append_right front hb : b ∈ l.mergeSort le)
    have hkept := ih hl
    rw [hrest] at hkept
    obtain ⟨hkfront, hkback, hkcross⟩ := List.pairwise_append.mp hkept
    rw [hsorted]
    refine List.pairwise_append.mpr ⟨hkfront, List.pairwise_cons.mpr
      ⟨fun b hb _ => ha b (hmem b hb), hkback⟩, fun b hb c hc hle => ?_⟩
    rcases List.mem_cons.mp hc with rfl | hc
    · exact absurd hle (by simpa using hfront b hb)
    · exact hkcross b hb c hc hle

variable {a b : String} {s acc : List String}

theorem mem_eraseReps_loop :
    b ∈ List.eraseRepsBy.loop (· == ·) a s acc ↔ b ∈ acc ∨ b = a ∨ b ∈ s := by
  induction s generalizing a acc with
  | nil => simp [List.eraseRepsBy.loop]
  | cons c s ih =>
    unfold List.eraseRepsBy.loop
    split
    · rename_i hsame
      rw [ih, eq_of_beq hsame, List.mem_cons]
      tauto
    · rw [ih, List.mem_cons, List.mem_cons]
      tauto

theorem pairwise_eraseReps_loop (h : (a :: s).Pairwise (· ≤ ·))
    (hacc : (a :: acc).Pairwise (· > ·)) :
    (List.eraseRepsBy.loop (· == ·) a s acc).Pairwise (· < ·) := by
  induction s generalizing a acc with
  | nil => exact List.pairwise_reverse.mpr hacc
  | cons c s ih =>
    obtain ⟨ha, hs⟩ := List.pairwise_cons.mp h
    unfold List.eraseRepsBy.loop
    split
    · rename_i hsame
      rw [eq_of_beq hsame] at hacc ⊢
      exact ih hs hacc
    · rename_i hdiffer
      have hlt : a < c := Std.lt_of_le_of_ne (ha c (List.mem_cons_self ..)) (by simpa using hdiffer)
      refine ih hs (List.pairwise_cons.mpr ⟨fun b hb => ?_, hacc⟩)
      rcases List.mem_cons.mp hb with rfl | hb
      · exact hlt
      · exact String.lt_trans (List.rel_of_pairwise_cons hacc hb) hlt

theorem mem_eraseReps : b ∈ s.eraseReps ↔ b ∈ s := by
  cases s with
  | nil => rfl
  | cons a s =>
    unfold List.eraseReps List.eraseRepsBy
    rw [mem_eraseReps_loop]
    simp

/-- In a sorted list, repetitions stand together. -/
theorem pairwise_eraseReps (h : s.Pairwise (· ≤ ·)) : s.eraseReps.Pairwise (· < ·) := by
  cases s with
  | nil => exact .nil
  | cons a s => exact pairwise_eraseReps_loop h (List.pairwise_singleton ..)

end Sorting

/-! ## Names of files -/

namespace Text

theorem eq_of_cutLastChars? {mark s before after : List Char}
    (h : cutLastChars? mark s = some (before, after)) : s = before ++ (mark ++ after) := by
  induction s generalizing before with
  | nil =>
    obtain ⟨rest, hrest, heq⟩ := Option.map_eq_some_iff.mp h
    cases heq
    have hmark := dropHead?_eq_some_iff.mp hrest
    exact hmark
  | cons c s ih =>
    unfold cutLastChars? at h
    split at h
    · rename_i hs
      cases h
      exact congrArg (c :: ·) (ih hs)
    · obtain ⟨rest, hrest, heq⟩ := Option.map_eq_some_iff.mp h
      cases heq
      have hmark := dropHead?_eq_some_iff.mp hrest
      exact hmark

theorem eq_of_cutLast? {mark s before after : String}
    (h : cutLast? mark s = some (before, after)) : s = before ++ mark ++ after := by
  obtain ⟨⟨front, back⟩, hcut, heq⟩ := Option.map_eq_some_iff.mp h
  cases heq
  rw [← String.toList_inj, eq_of_cutLastChars? hcut]
  simp

theorem eq_of_before? {tail s front : String} (h : before? tail s = some front) :
    s = front ++ tail := by
  obtain ⟨rest, hrest, rfl⟩ := Option.map_eq_some_iff.mp h
  have hreverse := congrArg List.reverse (dropHead?_eq_some_iff.mp hrest)
  rw [← String.toList_inj]
  simpa using hreverse

end Text

namespace Saves

open Std

variable {a b c s : Slot} {slots : List Slot} {slot file : String} {written : Option Moment}
  {found found' : List (String × Entry)}

/-- The name of a file can be told from its slot. -/
theorem fileName_of_ofFileName? (h : Slot.ofFileName? file written = some s) :
    s.fileName = file := by
  unfold Slot.ofFileName? at h
  obtain ⟨stem, hstem, h⟩ := Option.bind_eq_some_iff.mp h
  obtain ⟨⟨name, version⟩, hcut, h⟩ := Option.bind_eq_some_iff.mp h
  dsimp only at h
  split at h
  · cases h
  · cases h
    rw [Slot.fileName, Text.eq_of_before? hstem, Text.eq_of_cutLast? hcut]

/-! ## Orders -/

theorem noLater_refl (x : Option Moment) : noLater x x = true := (noLater_total x x).elim id id

theorem noLater_antisymm {x y : Option Moment} (hxy : noLater x y = true)
    (hyx : noLater y x = true) : x = y := by
  cases x with
  | none =>
    cases y with
    | none => rfl
    | some y => cases hyx
  | some x =>
    cases y with
    | none => cases hxy
    | some y =>
      exact congrArg some (Int.le_antisymm (of_decide_eq_true hxy) (of_decide_eq_true hyx))

namespace Slot

/-- By name, and the slots of one name by version. -/
def Before (a b : Slot) : Prop := a.name < b.name ∨ a.name = b.name ∧ a.version < b.version

/-- By time, the newest first, and the slots of one time by name and version. -/
def Newer (a b : Slot) : Prop :=
  noLater b.written a.written = true ∧ (a.written = b.written → a.Before b)

theorem Before.asymm (h : a.Before b) : ¬b.Before a := by
  unfold Before at *
  grind

theorem byName_iff :
    a.byName b = true ↔ a.name < b.name ∨ a.name = b.name ∧ a.version ≤ b.version := by
  simp [byName]

theorem byName_total (a b : Slot) : (a.byName b || b.byName a) = true := by
  rw [Bool.or_eq_true, byName_iff, byName_iff]
  grind

theorem byName_trans (a b c : Slot) (hab : a.byName b = true) (hbc : b.byName c = true) :
    a.byName c = true := by
  rw [byName_iff] at *
  grind

/-- Slots of different files are in a strict order. -/
theorem before_of_byName (h : a.byName b = true) (hfile : a.fileName ≠ b.fileName) :
    a.Before b := by
  rcases byName_iff.mp h with hname | ⟨hname, hversion⟩
  · exact .inl hname
  · refine .inr ⟨hname, Std.lt_of_le_of_ne hversion fun heq => hfile ?_⟩
    unfold fileName
    rw [hname, heq]

theorem newestFirst_iff : a.newestFirst b = true ↔
    noLater b.written a.written = true ∧ (a.written = b.written → a.name ≤ b.name) := by
  unfold newestFirst
  split
  · rename_i heq
    simp [heq, noLater_refl]
  · rename_i hne
    simp [hne]

theorem newestFirst_total (a b : Slot) : (a.newestFirst b || b.newestFirst a) = true := by
  rw [Bool.or_eq_true, newestFirst_iff, newestFirst_iff]
  by_cases heq : a.written = b.written
  · rw [heq]
    rcases String.le_total a.name b.name with hle | hle
    · exact .inl ⟨noLater_refl _, fun _ => hle⟩
    · exact .inr ⟨noLater_refl _, fun _ => hle⟩
  · rcases noLater_total b.written a.written with h | h
    · exact .inl ⟨h, fun h => absurd h heq⟩
    · exact .inr ⟨h, fun h => absurd h.symm heq⟩

theorem newestFirst_trans (a b c : Slot) (hab : a.newestFirst b = true)
    (hbc : b.newestFirst c = true) : a.newestFirst c = true := by
  rw [newestFirst_iff] at *
  refine ⟨noLater_trans hbc.1 hab.1, fun heq => ?_⟩
  -- what lies between two slots of one time is of this time, too
  have hsame : a.written = b.written := noLater_antisymm (heq ▸ hbc.1) hab.1
  exact String.le_trans (hab.2 hsame) (hbc.2 (hsame ▸ heq))

theorem newer_of_newestFirst (h : a.newestFirst b = true)
    (htie : b.newestFirst a = true → a.Before b) : a.Newer b := by
  obtain ⟨hlater, hname⟩ := newestFirst_iff.mp h
  refine ⟨hlater, fun heq => ?_⟩
  by_cases hlt : a.name < b.name
  · exact .inl hlt
  · refine htie (newestFirst_iff.mpr ⟨?_, fun _ => String.not_lt.mp hlt⟩)
    rw [heq]
    exact noLater_refl _

end Slot

/-! ## The slots of a folder -/

/-- The slots are those of the files that are named as saved games. -/
theorem mem_slotsAmong : s ∈ slotsAmong found ↔ ∃ file content written,
    (file, Entry.file content written) ∈ found ∧ Slot.ofFileName? file written = some s := by
  unfold slotsAmong
  rw [List.mem_mergeSort, List.mem_filterMap]
  constructor
  · rintro ⟨⟨file, entry⟩, hmem, hread⟩
    cases entry with
    | file content written => exact ⟨file, content, written, hmem, hread⟩
    | folder inside => cases hread
  · rintro ⟨file, content, written, hmem, hread⟩
    exact ⟨_, hmem, hread⟩

/-- The slots of files with different names are in a strict order. -/
theorem before_slotsAmong (hnames : found.Pairwise fun e e' => e.1 ≠ e'.1) :
    (slotsAmong found).Pairwise Slot.Before := by
  have hfiles : (slotsAmong found).Pairwise fun a b => a.fileName ≠ b.fileName := by
    unfold slotsAmong
    rw [(List.mergeSort_perm ..).pairwise_iff Ne.symm, List.pairwise_filterMap]
    refine hnames.imp fun {e e'} hne a ha b hb heq => hne ?_
    obtain ⟨file, entry⟩ := e
    obtain ⟨file', entry'⟩ := e'
    cases entry with
    | folder inside => cases ha
    | file content written =>
      cases entry' with
      | folder inside => cases hb
      | file content' written' =>
        exact (fileName_of_ofFileName? ha).symm.trans (heq.trans (fileName_of_ofFileName? hb))
  have hsorted : (slotsAmong found).Pairwise fun a b => a.byName b = true :=
    List.pairwise_mergeSort Slot.byName_trans Slot.byName_total _
  exact (hsorted.and hfiles).imp fun h => Slot.before_of_byName h.1 h.2

/-- **Slots** do not depend on the order in which files with different names are found. -/
theorem slotsAmong_eq_of_perm (hnames : found.Pairwise fun e e' => e.1 ≠ e'.1)
    (hperm : found.Perm found') : slotsAmong found = slotsAmong found' := by
  have hnames' : found'.Pairwise fun e e' => e.1 ≠ e'.1 :=
    (hperm.pairwise_iff Ne.symm).mp hnames
  have hslots : (slotsAmong found).Perm (slotsAmong found') :=
    (List.mergeSort_perm ..).trans ((hperm.filterMap _).trans (List.mergeSort_perm ..).symm)
  exact hslots.eq_of_pairwise (fun a b _ _ hab hba => absurd hba hab.asymm)
    (before_slotsAmong hnames) (before_slotsAmong hnames')

/-- What is sorted by time keeps its order by name and version where the times are equal. -/
theorem newer_mergeSort (hslots : slots.Pairwise Slot.Before) :
    (slots.mergeSort Slot.newestFirst).Pairwise Slot.Newer :=
  ((List.pairwise_mergeSort Slot.newestFirst_trans Slot.newestFirst_total slots).and
    (pairwise_mergeSort_of_pairwise Slot.newestFirst_trans Slot.newestFirst_total hslots)).imp
    fun h => Slot.newer_of_newestFirst h.1 h.2

/-! ## The slot that is chosen -/

/-- A slot of the name, of this version or else, when there is none, the newest; of those that were
written last, the one whose version comes first. -/
structure IsChosen (slot : String) (slots : List Slot) (s : Slot) : Prop where
  mem : s ∈ slots
  named : s.name = safeName slot
  best : s.isCurrent = true ∨ ∀ t ∈ slots, t.name = safeName slot → t.isCurrent = false ∧
    noLater t.written s.written = true ∧ (t.written = s.written → s.version ≤ t.version)

/-- Of two slots that are not of this version, the newer one is preferred. -/
theorem preferred_iff_of_not_current (ha : a.isCurrent = false) (hb : b.isCurrent = false) :
    a.preferred b = true ↔ noLater b.written a.written = true := by
  unfold Slot.preferred
  simp [ha, hb]

/-- Where no slot is preferred, the first one by name and version is chosen. -/
theorem before_of_choose {t : Slot} (hslots : slots.Pairwise Slot.Before)
    (h : choose slot slots = some s) (ht : t ∈ slots) (hname : t.name = safeName slot)
    (htie : t.preferred s = true) : t = s ∨ s.Before t := by
  have hkept := pairwise_mergeSort_of_pairwise (fun a b c => @Slot.preferred_trans a b c)
    Slot.preferred_total (hslots.filter (·.name == safeName slot))
  exact (rel_of_choose hkept h ht hname).imp_right fun hbefore => hbefore htie

theorem isChosen_of_choose (hslots : slots.Pairwise Slot.Before)
    (h : choose slot slots = some s) : IsChosen slot slots s := by
  obtain ⟨hmem, hname⟩ := mem_of_choose h
  refine ⟨hmem, hname, ?_⟩
  cases hcurrent : s.isCurrent with
  | true => exact .inl rfl
  | false =>
    refine .inr fun t ht htname => ?_
    rcases preferred_of_choose h ht htname with rfl | hpreferred
    · exact ⟨hcurrent, noLater_refl _, fun _ => String.le_refl _⟩
    · have htcurrent : t.isCurrent = false := by
        rw [Bool.eq_false_iff]
        intro htcurrent
        rw [Slot.isCurrent_of_preferred hpreferred htcurrent] at hcurrent
        cases hcurrent
      refine ⟨htcurrent, (preferred_iff_of_not_current hcurrent htcurrent).mp hpreferred,
        fun heq => ?_⟩
      have htie : t.preferred s = true :=
        (preferred_iff_of_not_current htcurrent hcurrent).mpr (heq ▸ noLater_refl _)
      rcases before_of_choose hslots h ht htname htie with rfl | hlt | ⟨-, hlt⟩
      · exact String.le_refl _
      · rw [hname, htname] at hlt
        exact absurd hlt (String.lt_irrefl _)
      · exact Std.le_of_lt hlt

/-- Slots in a strict order differ in their names or in their versions. -/
theorem eq_of_name_of_version (hslots : slots.Pairwise Slot.Before) (ha : a ∈ slots)
    (hb : b ∈ slots) (hname : a.name = b.name) (hversion : a.version = b.version) : a = b := by
  have hdiffer : (slots.map fun s => (s.name, s.version)).Nodup := by
    refine List.pairwise_map.mpr (hslots.imp fun {a b} hbefore heq => ?_)
    obtain ⟨hname, hversion⟩ := Prod.mk.inj heq
    rcases hbefore with hlt | ⟨-, hlt⟩
    · exact String.lt_irrefl _ (hname ▸ hlt)
    · exact String.lt_irrefl _ (hversion ▸ hlt)
  exact List.inj_on_of_nodup_map hdiffer ha hb (Prod.ext hname hversion)

theorem IsChosen.unique (hslots : slots.Pairwise Slot.Before) (ha : IsChosen slot slots a)
    (hb : IsChosen slot slots b) : a = b := by
  have hname : a.name = b.name := ha.named.trans hb.named.symm
  have hversion : a.version = b.version := by
    rcases ha.best with hacurrent | habest
    · rcases hb.best with hbcurrent | hbbest
      · exact (eq_of_beq hacurrent).trans (eq_of_beq hbcurrent).symm
      · rw [(hbbest a ha.mem ha.named).1] at hacurrent
        cases hacurrent
    · obtain ⟨hbcurrent, hba, hbversion⟩ := habest b hb.mem hb.named
      rcases hb.best with hbcurrent' | hbbest
      · rw [hbcurrent] at hbcurrent'
        cases hbcurrent'
      · obtain ⟨-, hab, haversion⟩ := hbbest a ha.mem ha.named
        have hwritten : a.written = b.written := noLater_antisymm hab hba
        exact String.le_antisymm (hbversion hwritten.symm) (haversion hwritten)
  exact eq_of_name_of_version hslots ha.mem hb.mem hname hversion

/-- **The slot that is chosen** is told by the slots alone. -/
theorem choose_eq_some_iff (hslots : slots.Pairwise Slot.Before) :
    choose slot slots = some s ↔ IsChosen slot slots s := by
  refine ⟨isChosen_of_choose hslots, fun h => ?_⟩
  obtain ⟨found, hfound⟩ := exists_choose h.mem h.named
  rw [hfound, (isChosen_of_choose hslots hfound).unique hslots h]

/-! ## The lists -/

namespace Shelf

variable {shelf : Shelf} {entries : ExtTreeMap String Entry}

/-- What stands in a folder has different names. -/
theorem pairwise_toList (entries : ExtTreeMap String Entry) :
    entries.toList.Pairwise fun e e' => e.1 ≠ e'.1 :=
  ExtTreeMap.distinct_keys_toList.imp fun {e e'} hne heq => hne (by rw [heq]; exact compare_self)

/-- What is made of the files of the shelf when they are found in some order. -/
structure ListedAs (shelf : Shelf) (found : List (String × Entry)) : Prop where
  /-- Another order makes no difference. -/
  order : ∀ found', found'.Perm found → slotsAmong found' = slotsAmong found
  slots : shelf.slots = .ok (slotsAmong found)
  listing : shelf.listing =
    .ok (((slotsAmong found).mergeSort Slot.newestFirst).map fun s => (s, shelf.status s))
  find : ∀ slot, shelf.find slot = .ok (choose slot (slotsAmong found))
  mem_slots : ∀ s, s ∈ slotsAmong found ↔ ∃ file content written,
    (file, Entry.file content written) ∈ found ∧ Slot.ofFileName? file written = some s
  sorted : (slotsAmong found).Pairwise Slot.Before
  newest_first : ((slotsAmong found).mergeSort Slot.newestFirst).Pairwise Slot.Newer
  chosen : ∀ slot s, choose slot (slotsAmong found) = some s ↔ IsChosen slot (slotsAmong found) s
  exists_chosen : ∀ slot, (∃ s, choose slot (slotsAmong found) = some s) ↔
    ∃ s ∈ slotsAmong found, s.name = safeName slot
  /-- No name is offered twice. -/
  names_differ : shelf.slotNames.Nodup
  mem_names : ∀ name, name ∈ shelf.slotNames ↔ ∃ s ∈ slotsAmong found, s.name = name

/-- **The lists of the shelf** do not depend on the order in which the files are found: from each
order come the same slots, the same list to be shown and, for every name, the same slot to be
loaded. The slots are in a strict order by name and version, and the list that is shown is in one
with the newest first. Of the slots of a name one of this version is loaded, or else one that was
written last; and each name is offered once. -/
theorem listed_of_found (hfolder : shelf.folder = .entries entries)
    (hfound : found.Perm entries.toList) : shelf.ListedAs found := by
  have hnames : found.Pairwise fun e e' => e.1 ≠ e'.1 :=
    (hfound.pairwise_iff Ne.symm).mpr (pairwise_toList entries)
  have hslots : shelf.slots = .ok (slotsAmong found) := by
    unfold Shelf.slots
    rw [hfolder]
    exact congrArg Except.ok (slotsAmong_eq_of_perm hnames hfound).symm
  have hbefore : (slotsAmong found).Pairwise Slot.Before := before_slotsAmong hnames
  have hoffered : shelf.slotNames = ((slotsAmong found).map (·.name)).eraseReps := by
    unfold slotNames
    rw [hslots]
  have hascending : ((slotsAmong found).map (·.name)).Pairwise (· ≤ ·) := by
    refine List.pairwise_map.mpr (hbefore.imp fun h => ?_)
    rcases h with hlt | ⟨heq, -⟩
    · exact Std.le_of_lt hlt
    · exact heq ▸ String.le_refl _
  exact {
    order := fun found' hperm => (slotsAmong_eq_of_perm hnames hperm.symm).symm
    slots := hslots
    listing := by
      unfold Shelf.listing
      rw [hslots]
      rfl
    find := fun slot => by
      unfold Shelf.find
      rw [hslots]
      rfl
    mem_slots := fun s => mem_slotsAmong
    sorted := hbefore
    newest_first := newer_mergeSort hbefore
    chosen := fun slot s => choose_eq_some_iff hbefore
    exists_chosen := fun slot => ⟨fun ⟨s, hs⟩ => ⟨s, mem_of_choose hs⟩,
      fun ⟨s, hs, hname⟩ => exists_choose hs hname⟩
    names_differ := by
      rw [hoffered]
      refine (pairwise_eraseReps hascending).imp fun {name name'} hlt heq => ?_
      rw [heq] at hlt
      exact String.lt_irrefl _ hlt
    mem_names := fun name => by
      rw [hoffered, mem_eraseReps, List.mem_map] }

/-- Files as they are found: a game whose time cannot be told, one with the mark in the name of its
slot, and two of one slot that older versions wrote at one time. -/
def atticFiles : List (String × Entry) :=
  [("notes.txt", .file .empty (some 9)), ("barn-lantern-0.3.0.ron", .file .empty none),
    ("attic-lantern-9-lantern-0.3.0.ron", .file .empty (some 8)),
    ("attic-lantern-0.2.0.ron", .file .empty (some 7)),
    ("attic-lantern-0.1.0.ron", .file .empty (some 7))]

def atticShelf : Shelf where
  path := "saves"
  folder := .entries (.ofList atticFiles)

theorem attic_listed :
    atticShelf.find "Attic" = .ok (some ⟨"attic", "0.1.0", some 7⟩) ∧
      atticShelf.slotNames.Nodup ∧ "attic-lantern-9" ∈ atticShelf.slotNames := by
  have hfound : atticFiles.Perm (ExtTreeMap.ofList atticFiles).toList :=
    (List.reverse_perm atticFiles).symm
  have hlisted : atticShelf.ListedAs atticFiles := listed_of_found rfl hfound
  have hmem : ∀ s : Slot, s ∈ slotsAmong atticFiles ↔ s ∈ [⟨"barn", "0.3.0", none⟩,
      ⟨"attic-lantern-9", "0.3.0", some 8⟩, ⟨"attic", "0.2.0", some 7⟩,
      (⟨"attic", "0.1.0", some 7⟩ : Slot)] := by
    intro s
    unfold slotsAmong
    rw [List.mem_mergeSort]
    exact Iff.of_eq (congrArg (s ∈ ·) (by decide +kernel))
  have hchosen : IsChosen "Attic" (slotsAmong atticFiles) ⟨"attic", "0.1.0", some 7⟩ := by
    refine ⟨(hmem _).mpr (by decide), by decide +kernel, .inr ?_⟩
    simp only [hmem]
    decide +kernel
  refine ⟨?_, hlisted.names_differ, (hlisted.mem_names _).mpr
    ⟨⟨"attic-lantern-9", "0.3.0", some 8⟩, (hmem _).mpr (by decide), rfl⟩⟩
  rw [hlisted.find, (hlisted.chosen ..).mpr hchosen]

end Shelf

end Saves

end TextAdventure
