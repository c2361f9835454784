import Mathlib.Data.List.Induction
import TextAdventure.Proofs.Outcome
import TextAdventure.Proofs.Saves.File
import TextAdventure.Proofs.Saves.Name
import TextAdventure.Saves.Shelf

/-!
# The shelf as a store

Saved games behave like values in a store whose keys are the safe names of slots: what is found for
a slot is what was last written under its name.

* **names** — the name of a file ends in the version mark, the version and the ending, and is cut
  there again, whatever the slot is called, even when its name has the mark in it
  (`ofFileName?_fileName`);
* **writing** — a file replaces the one of its name and no other (`at?_write`);
* **choosing** — a slot of this version is chosen before those of other versions, whatever their
  times are (`choose_current`).
-/

namespace TextAdventure.Saves

open Std

/-! ## Names of files -/

theorem before?_append (s tail : String) : Text.before? tail (s ++ tail) = some s := by
  unfold Text.before?
  have hreverse : (s ++ tail).toList.reverse = tail.toList.reverse ++ s.toList.reverse := by
    rw [String.toList_append, List.reverse_append]
  rw [Text.dropHead?_eq_some_iff.mpr hreverse]
  simp

/-- A mark that does not occur again in what follows it is the last one, whatever precedes it. -/
theorem cutLastChars?_append {mark before after : List Char}
    (h : Text.cutLastChars? mark (mark ++ after) = some ([], after)) :
    Text.cutLastChars? mark (before ++ (mark ++ after)) = some (before, after) := by
  induction before with
  | nil => exact h
  | cons c before ih =>
    rw [List.cons_append]
    unfold Text.cutLastChars?
    rw [ih]

theorem cutLast?_versionMark (name : String) :
    Text.cutLast? versionMark (name ++ versionMark ++ engineVersion) =
      some (name, engineVersion) := by
  have hversion : Text.cutLastChars? versionMark.toList
      (versionMark.toList ++ engineVersion.toList) = some ([], engineVersion.toList) := by
    decide +kernel
  unfold Text.cutLast?
  rw [String.toList_append, String.toList_append, List.append_assoc,
    cutLastChars?_append hversion]
  simp

/-- What is written for a slot is read as the safe name of the slot and this version. -/
theorem ofFileName?_fileName (slot : String) (time : Option Moment) :
    Slot.ofFileName? (fileName slot) time = some ⟨safeName slot, engineVersion, time⟩ := by
  unfold Slot.ofFileName? fileName
  rw [before?_append]
  simp [cutLast?_versionMark, safeName_ne_empty]

/-- Slots share a file when they share a safe name. -/
theorem fileName_eq_iff {slot slot' : String} :
    fileName slot = fileName slot' ↔ safeName slot = safeName slot' := by
  constructor
  · intro h
    have hread := ofFileName?_fileName slot none
    rw [h, ofFileName?_fileName] at hread
    exact (Slot.mk.inj (Option.some.inj hread)).1.symm
  · intro h
    unfold fileName
    rw [h]

/-- The file of a slot of this version is the one that is written for its name. -/
theorem fileName_of_current {found : Slot} {slot : String} (hname : found.name = safeName slot)
    (hcurrent : found.isCurrent = true) : found.fileName = fileName slot := by
  unfold Slot.isCurrent at hcurrent
  unfold Slot.fileName fileName
  rw [hname, eq_of_beq hcurrent]

/-! ## Choosing -/

theorem noLater_total (a b : Option Moment) : noLater a b = true ∨ noLater b a = true := by
  cases a <;> cases b <;> simp [noLater, Int.le_total]

theorem noLater_trans {a b c : Option Moment} (hab : noLater a b = true)
    (hbc : noLater b c = true) : noLater a c = true := by
  cases a with
  | none => rfl
  | some a =>
    cases b with
    | none => cases hab
    | some b =>
      cases c with
      | none => cases hbc
      | some c =>
        exact decide_eq_true (Int.le_trans (of_decide_eq_true hab) (of_decide_eq_true hbc))

namespace Slot

variable {a b c : Slot}

theorem preferred_total (a b : Slot) : (a.preferred b || b.preferred a) = true := by
  unfold preferred
  cases a.isCurrent <;> cases b.isCurrent <;> simp [noLater_total]

theorem preferred_trans (hab : a.preferred b = true) (hbc : b.preferred c = true) :
    a.preferred c = true := by
  unfold preferred at *
  cases ha : a.isCurrent <;> cases hb : b.isCurrent <;> cases hc : c.isCurrent <;> simp_all
  · exact noLater_trans hbc hab
  · exact noLater_trans hbc hab

/-- Nothing is preferred to a slot of this version but another one. -/
theorem isCurrent_of_preferred (h : a.preferred b = true) (hb : b.isCurrent = true) :
    a.isCurrent = true := by
  unfold preferred at h
  cases ha : a.isCurrent with
  | true => rfl
  | false => simp [ha, hb] at h

end Slot

section Choosing

variable {slot : String} {slots : List Slot} {s t : Slot}

theorem mem_of_choose (h : choose slot slots = some s) : s ∈ slots ∧ s.name = safeName slot := by
  have hmem := List.mem_filter.mp (List.mem_mergeSort.mp (List.mem_of_mem_head? h))
  exact ⟨hmem.1, beq_iff_eq.mp hmem.2⟩

/-- A slot is chosen when there is one with the name. -/
theorem exists_choose (hs : s ∈ slots) (hname : s.name = safeName slot) :
    ∃ found, choose slot slots = some found := by
  have hmem : s ∈ (slots.filter (·.name == safeName slot)).mergeSort Slot.preferred :=
    List.mem_mergeSort.mpr (List.mem_filter.mpr ⟨hs, beq_iff_eq.mpr hname⟩)
  exact Option.isSome_iff_exists.mp (List.isSome_head?.mpr (List.ne_nil_of_mem hmem))

/-- The slot that is chosen stands in front of all others with the name. -/
theorem rel_of_choose {r : Slot → Slot → Prop}
    (hsorted : ((slots.filter (·.name == safeName slot)).mergeSort Slot.preferred).Pairwise r)
    (h : choose slot slots = some s) (ht : t ∈ slots) (hname : t.name = safeName slot) :
    t = s ∨ r s t := by
  have hmem : t ∈ (slots.filter (·.name == safeName slot)).mergeSort Slot.preferred :=
    List.mem_mergeSort.mpr (List.mem_filter.mpr ⟨ht, beq_iff_eq.mpr hname⟩)
  obtain ⟨rest, hrest⟩ := List.head?_eq_some_iff.mp h
  rw [hrest] at hsorted hmem
  rcases List.mem_cons.mp hmem with heq | hmem
  · exact .inl heq
  · exact .inr (List.rel_of_pairwise_cons hsorted hmem)

theorem preferred_of_choose (h : choose slot slots = some s) (ht : t ∈ slots)
    (hname : t.name = safeName slot) : t = s ∨ s.preferred t = true :=
  rel_of_choose (List.pairwise_mergeSort (fun a b c => @Slot.preferred_trans a b c)
    Slot.preferred_total _) h ht hname

/-- When there is a slot of this version with the name, one of this version is chosen. -/
theorem choose_current (hs : s ∈ slots) (hname : s.name = safeName slot)
    (hcurrent : s.isCurrent = true) :
    ∃ found, choose slot slots = some found ∧ found.name = safeName slot ∧
      found.isCurrent = true := by
  obtain ⟨found, hfound⟩ := exists_choose hs hname
  refine ⟨found, hfound, (mem_of_choose hfound).2, ?_⟩
  rcases preferred_of_choose hfound hs hname with rfl | hpreferred
  · exact hcurrent
  · exact Slot.isCurrent_of_preferred hpreferred hcurrent

end Choosing

/-! ## Files on the shelf -/

namespace Shelf

variable {shelf shelf' : Shelf} {name slot : String} {time : Moment} {snap : Snapshot}
  {content : ByteArray} {written : Option Moment}

/-- What stands on the shelf under a name. -/
def at? (shelf : Shelf) (name : String) : Option Entry :=
  match shelf.folder with
  | .entries entries => entries[name]?
  | .missing | .file => none

/-- Writing puts one file onto the shelf and leaves the others as they are. -/
theorem at?_write (h : shelf.write time slot snap = .ok shelf') (name : String) :
    shelf'.at? name = if fileName slot = name then some (.file snap.toText.toUTF8 (some time))
      else shelf.at? name := by
  have hput : ∀ {entries : ExtTreeMap String Entry},
      (entries.insert (fileName slot) (.file snap.toText.toUTF8 (some time)))[name]? =
        if fileName slot = name then some (Entry.file snap.toText.toUTF8 (some time))
        else entries[name]? := by
    intro entries
    simp [ExtTreeMap.getElem?_insert]
  unfold write at h
  simp only at h
  unfold at?
  split at h
  · rename_i hfolder
    split at h
    · cases h
    · split at h
      · cases h
      · rw [← Except.ok.inj h, hfolder]
        exact hput.trans (by simp)
  · cases h
  · rename_i entries hfolder
    split at h
    · cases h
    · split at h
      · cases h
      · rw [← Except.ok.inj h, hfolder]
        exact hput

/-- A file on the shelf is read under its name. -/
theorem read_of_at? (h : shelf.at? name = some (.file content written)) :
    shelf.read name = readContent (shelf.pathOf name) content := by
  unfold at? at h
  unfold read
  cases hfolder : shelf.folder with
  | entries entries =>
    simp only [hfolder] at h
    simp only [h]
  | missing => simp [hfolder] at h
  | file => simp [hfolder] at h

/-- A file on the shelf that was written for a slot is found among the slots. -/
theorem slots_of_at? (h : shelf.at? (fileName slot) = some (.file content written)) :
    ∃ slots s, shelf.slots = .ok slots ∧ s ∈ slots ∧ s.name = safeName slot ∧
      s.isCurrent = true := by
  unfold at? at h
  unfold slots
  cases hfolder : shelf.folder with
  | entries entries =>
    simp only [hfolder] at h
    have hentry : (fileName slot, Entry.file content written) ∈ entries.toList :=
      ExtTreeMap.mem_toList_iff_getElem?_eq_some.mpr h
    refine ⟨slotsAmong entries.toList, ⟨safeName slot, engineVersion, written⟩, rfl, ?_, ?_, ?_⟩
    · unfold slotsAmong
      rw [List.mem_mergeSort, List.mem_filterMap]
      exact ⟨_, hentry, ofFileName?_fileName slot written⟩
    · simp only
    · simp [Slot.isCurrent]
  | missing => simp [hfolder] at h
  | file => simp [hfolder] at h

/-- What was written for a slot is found for it. -/
theorem find_of_at? (h : shelf.at? (fileName slot) = some (.file content written)) :
    ∃ found, shelf.find slot = .ok (some found) ∧ found.fileName = fileName slot := by
  obtain ⟨slots, s, hslots, hmem, hnamed, hthis⟩ := slots_of_at? h
  obtain ⟨found, hchoose, hname, hcurrent⟩ := choose_current hmem hnamed hthis
  refine ⟨found, ?_, fileName_of_current hname hcurrent⟩
  unfold find
  rw [hslots, ← hchoose]
  rfl

end Shelf

/-! ## Writing in sequence -/

/-- A game that is saved: when, under what name, and what. -/
structure Write where
  time : Moment
  slot : String
  snap : Snapshot

/-- The shelf after games have been saved one after the other. -/
def Shelf.writeAll (shelf : Shelf) (writes : List Write) : Except SaveError Shelf :=
  writes.foldlM (fun shelf e => shelf.write e.time e.slot e.snap) shelf

/-- The games among those saved that share their safe name with a slot. -/
def writesTo (slot : String) (writes : List Write) : List Write :=
  writes.filter fun e => safeName e.slot = safeName slot

namespace Shelf

variable {shelf shelf' : Shelf} {slot : String} {writes : List Write} {last : Write}

/-- The file of a slot holds what was last written to it. -/
theorem at?_writeAll (h : shelf.writeAll writes = .ok shelf')
    (hlast : (writesTo slot writes).getLast? = some last) :
    shelf'.at? (fileName slot) = some (.file last.snap.toText.toUTF8 (some last.time)) := by
  unfold writeAll at h
  unfold writesTo at hlast
  -- on the last write: it is the one that is looked for, or it goes into another file
  induction writes using List.reverseRecOn generalizing shelf' with
  | nil => cases hlast
  | append_singleton writes e ih =>
    rw [List.foldlM_append, bind_eq_ok] at h
    obtain ⟨before, hbefore, h⟩ := h
    rw [List.foldlM_cons, bind_eq_ok] at h
    obtain ⟨after, hwrite, hafter⟩ := h
    obtain rfl := pure_eq_ok.mp hafter
    rw [at?_write hwrite, List.filter_append] at *
    by_cases hsame : safeName e.slot = safeName slot
    · rw [if_pos (fileName_eq_iff.mpr hsame)]
      have hfilter : [e].filter (fun e => safeName e.slot = safeName slot) = [e] := by
        simp [hsame]
      rw [hfilter, List.getLast?_concat] at hlast
      rw [Option.some.inj hlast]
    · rw [if_neg fun heq => hsame (fileName_eq_iff.mp heq)]
      have hfilter : [e].filter (fun e => safeName e.slot = safeName slot) = [] := by
        simp [hsame]
      rw [hfilter, List.append_nil] at hlast
      exact ih hbefore hlast

theorem readContent_toUTF8 {path : String} {snap : Snapshot} (h : snap.Counted) :
    readContent path snap.toText.toUTF8 = .ok snap := by
  have hutf8 : String.fromUTF8? snap.toText.toUTF8 = some snap.toText := by
    unfold String.fromUTF8?
    rw [String.toUTF8_eq_toByteArray, dif_pos snap.toText.isValidUTF8]
    rfl
  unfold readContent
  rw [hutf8]
  simp only [Snapshot.ofText?_toText h]

/-- **A store of saved games.** Whatever was on the shelf before, after any sequence of successful
writes a slot is found for every name that shares its safe name with one of the slots written, and
its file is read as the last snapshot that was written to it. Neither other slots, nor files of
other versions, nor times matter. -/
theorem find_last_written (h : shelf.writeAll writes = .ok shelf')
    (hcounted : ∀ e ∈ writes, e.snap.Counted)
    (hslot : ∃ e ∈ writes, safeName e.slot = safeName slot) :
    ∃ last found, (writesTo slot writes).getLast? = some last ∧
      shelf'.find slot = .ok (some found) ∧ shelf'.read found.fileName = .ok last.snap := by
  obtain ⟨e, he, hsame⟩ := hslot
  have hmem : e ∈ writesTo slot writes := List.mem_filter.mpr ⟨he, decide_eq_true hsame⟩
  obtain ⟨last, hlast⟩ : ∃ last, (writesTo slot writes).getLast? = some last :=
    Option.isSome_iff_exists.mp (List.getLast?_isSome.mpr (List.ne_nil_of_mem hmem))
  have hfile := at?_writeAll h hlast
  obtain ⟨found, hfound, hname⟩ := find_of_at? hfile
  refine ⟨last, found, hlast, hfound, ?_⟩
  rw [hname, read_of_at? hfile]
  exact readContent_toUTF8
    (hcounted last (List.mem_filter.mp (List.mem_of_getLast? hlast)).1)

/-- A shelf with a game of an older version, saved later than anything below. -/
def porchShelf : Shelf where
  path := "saves"
  folder := .entries (.ofList [("porch-lantern-0.2.0.ron", Entry.file .empty (some 90))])

/-- Three games of two players, one of whom has a version mark in the name of the slot. -/
def porchWrites : List Write :=
  [⟨10, "Porch", { (default : Snapshot) with score := 1 }⟩,
    ⟨20, "porch-lantern-9", { (default : Snapshot) with score := 1 }⟩, ⟨5, " porch ", default⟩]

theorem porch_found : ∃ shelf' found, porchShelf.writeAll porchWrites = .ok shelf' ∧
    shelf'.find "PORCH" = .ok (some found) ∧ shelf'.read found.fileName = .ok default := by
  have hwritten : (porchShelf.writeAll porchWrites).isOk = true := by decide +kernel
  have hlast : (writesTo "PORCH" porchWrites).getLast? = some ⟨5, " porch ", default⟩ := by
    rfl
  obtain ⟨shelf', h⟩ := isOk_iff.mp hwritten
  have hname : safeName " porch " = safeName "PORCH" := by decide +kernel
  have hcounted : ∀ e ∈ porchWrites, e.snap.Counted := by
    intro e he
    simp only [porchWrites, List.mem_cons, List.not_mem_nil, or_false] at he
    rcases he with rfl | rfl | rfl
    all_goals exact ⟨by decide, fun id used hused => by cases hused⟩
  obtain ⟨last, found, hgot, hfind, hread⟩ := find_last_written h hcounted
    ⟨⟨5, " porch ", default⟩, by simp [porchWrites], hname⟩
  obtain rfl := Option.some.inj (hgot.symm.trans hlast)
  exact ⟨shelf', found, h, hfind, hread⟩

end Shelf

end TextAdventure.Saves
