import Mathlib.Data.List.Infix
import TextAdventure.Proofs.Condition
import TextAdventure.Proofs.Saves.Shelf
import TextAdventure.Proofs.Text.Case
import TextAdventure.Session.Completion

/-!
# What a completion replaces

The texts of a completion are put in place of what is typed, from a position in the line up to the
cursor. Command words are put in place of the whole text behind the first blanks, and begin with it
in small letters. For the name of a saved game behind `load` the position is counted back from the
cursor by the size of the name in small letters. It is the right one exactly when the name has the
same size in small letters as it is typed (`completion_replaces`); a Kelvin sign, which is lowered
to a letter of one byte, is cut in two (`kelvin_cut`).
-/

namespace TextAdventure

open Text

variable {shelf : Saves.Shelf} {left right before typed : String} {c : Completion}

/-! ## What is typed -/

/-- The texts of the completion are put in place of `typed`, which stands behind `before`, and begin
with it in small letters. -/
structure Completion.Replaces (c : Completion) (before typed : String) : Prop where
  start : c.start = before.utf8ByteSize
  texts : ∀ text ∈ c.texts, beginsWith (lower typed) text = true

/-- The completion fits a line that ends at the cursor: its texts are put in place of some end of
the line, and begin with it in small letters. -/
def Completion.Fits (c : Completion) (left : String) : Prop :=
  ∃ before typed, left = before ++ typed ∧ c.Replaces before typed

/-- Before the typed name of a saved game stands the word `load`, with blanks around it. -/
structure NamesSlot (before typed : String) : Prop where
  loads : ∃ lead word blanks : List Char, before.toList = lead ++ (word ++ ' ' :: blanks) ∧
    (∀ c ∈ lead, isBlank c = true) ∧ lowerChars word = "load".toList ∧
    ∀ c ∈ blanks, isBlank c = true
  bare : ∀ c rest, typed.toList = c :: rest → isBlank c = false

/-! ## Bytes -/

theorem utf8ByteSize_ofList_cons (c : Char) (s : List Char) :
    (String.ofList (c :: s)).utf8ByteSize = c.utf8Size + (String.ofList s).utf8ByteSize := by
  have hcons : String.ofList (c :: s) = String.singleton c ++ String.ofList s := by
    rw [← String.toList_inj, String.toList_append]
    simp
  rw [hcons, String.utf8ByteSize_append, String.utf8ByteSize_singleton]

/-- In the narrow character set, small letters are as large as capitals. -/
theorem utf8Size_lowerChar {ch : Char} (h : ch.toNat < 0x80) :
    (lowerChar ch).utf8Size = ch.utf8Size := by
  have hone : ∀ d : Char, d.toNat < 0x80 → d.utf8Size = 1 := fun d hd =>
    Char.utf8Size_eq_one_iff.mpr (UInt32.le_iff_toNat_le.mpr (Nat.le_of_lt_succ hd))
  have hsmall : (lowerChar ch).toNat < 0x80 := by
    unfold lowerChar
    rw [if_pos h]
    split
    · rename_i hcapital
      obtain ⟨n, hn, hcode⟩ := toNat_add_of_capital hcapital
      rw [hcode]
      exact (same_of_letter n hn).2
    · exact h
  rw [hone _ h, hone _ hsmall]

theorem utf8ByteSize_map_lowerChar {chars : List Char} (h : ∀ ch ∈ chars, ch.toNat < 0x80) :
    (String.ofList (chars.map lowerChar)).utf8ByteSize = (String.ofList chars).utf8ByteSize := by
  induction chars with
  | nil => rfl
  | cons ch chars ih =>
    rw [List.map_cons, utf8ByteSize_ofList_cons, utf8ByteSize_ofList_cons,
      utf8Size_lowerChar (h ch (List.mem_cons_self ..)),
      ih fun d hd => h d (List.mem_cons_of_mem _ hd)]

theorem utf8ByteSize_lower {text : String} (h : ∀ ch ∈ text.toList, ch.toNat < 0x80) :
    (lower text).utf8ByteSize = text.utf8ByteSize := by
  have hplain : ∀ ch ∈ text.toList, ch ≠ 'Σ' ∧ ch ≠ 'İ' := by
    intro ch hch
    constructor <;> rintro rfl <;> exact absurd (h _ hch) (by decide)
  rw [lower, lowerChars_eq_map hplain, utf8ByteSize_map_lowerChar h, String.ofList_toList]

/-- As many bytes as a text has are the text itself. -/
theorem takeBytes_append (s rest : List Char) :
    takeBytes (String.ofList s).utf8ByteSize (s ++ rest) = s := by
  induction s with
  | nil =>
    cases rest with
    | nil => rfl
    | cons c rest => simp [takeBytes]
  | cons c s ih =>
    have hpos : 0 < c.utf8Size := Char.utf8Size_pos c
    rw [utf8ByteSize_ofList_cons, List.cons_append, takeBytes, if_neg (by omega),
      Nat.add_sub_cancel_left, ih]

theorem takeBytes_line (left right : String) :
    String.ofList (takeBytes left.utf8ByteSize (left ++ right).toList) = left := by
  have htake := takeBytes_append left.toList right.toList
  rw [String.ofList_toList] at htake
  rw [String.toList_append, htake, String.ofList_toList]

/-! ## Names behind `load` -/

/-- What is lowered to plain letters has been read one by one. -/
theorem exists_of_lowerFrom_eq_append {ctx s p rest : List Char}
    (hp : ∀ d ∈ p, d ≠ 'σ' ∧ d ≠ 'ς' ∧ d ≠ 'i') (h : lowerFrom ctx s = p ++ rest) :
    ∃ head tail, s = head ++ tail ∧ (∀ c ∈ head, c ≠ 'Σ' ∧ c ≠ 'İ') ∧ head.map lowerChar = p ∧
      rest = lowerFrom (head.reverse ++ ctx) tail := by
  induction p generalizing ctx s with
  | nil => exact ⟨[], s, rfl, fun c hc => (List.not_mem_nil hc).elim, rfl, h.symm⟩
  | cons d p ih =>
    obtain ⟨hsmall, hfinal, hi⟩ := hp d (List.mem_cons_self ..)
    cases s with
    | nil => cases h
    | cons c s =>
      rw [lowerFrom] at h
      have hsigma : c ≠ 'Σ' := by
        intro hc
        rw [if_pos hc] at h
        have hd := (List.cons.inj h).1
        split at hd
        · exact hfinal hd.symm
        · exact hsmall hd.symm
      have hdotted : c ≠ 'İ' := by
        intro hc
        rw [if_neg hsigma, if_pos hc] at h
        exact hi (List.cons.inj h).1.symm
      rw [if_neg hsigma, if_neg hdotted] at h
      obtain ⟨hd, hrest⟩ := List.cons.inj h
      obtain ⟨head, tail, rfl, hplain, hmap, rfl⟩ :=
        ih (fun e he => hp e (List.mem_cons_of_mem _ he)) hrest
      refine ⟨c :: head, tail, rfl, fun e he => ?_, ?_, ?_⟩
      · rcases List.mem_cons.mp he with rfl | he
        · exact ⟨hsigma, hdotted⟩
        · exact hplain e he
      · rw [List.map_cons, hmap]
        exact congrArg (· :: p) hd
      · rw [List.reverse_cons, List.append_assoc]
        rfl

/-- The text behind the first blanks stands behind those blanks. -/
theorem exists_trimStart (s : String) : ∃ before, s = before ++ trimStart s := by
  refine ⟨String.ofList (s.toList.takeWhile isBlank), ?_⟩
  rw [← String.toList_inj, String.toList_append, trimStart, String.toList_ofList,
    String.toList_ofList, trimStartChars, List.takeWhile_append_dropWhile]

/-- What follows a blank is lowered, behind its own first blanks, as if it stood alone. -/
theorem trimStart_lowerFrom {ctx tail : List Char} {b : Char} (hb : isBlank b = true) :
    trimStart (String.ofList (lowerFrom (b :: ctx) tail)) =
      lower (String.ofList (tail.dropWhile isBlank)) := by
  have hblanks : ∀ d ∈ (tail.takeWhile isBlank).reverse, isBlank d = true := fun d hd =>
    List.all_eq_true.mp List.all_takeWhile d (List.mem_reverse.mp hd)
  rw [trimStart, trimStartChars, String.toList_ofList, dropWhile_lowerFrom,
    lowerFrom_of_blanks hb hblanks, lower, lowerChars, String.toList_ofList]

theorem loadMark_eq : "load ".toList = "load".toList ++ [' '] := rfl

/-- What is lowered to a space is one. -/
theorem eq_space_of_lowerChar {b : Char} (h : lowerChar b = ' ') : b = ' ' := by
  have hblank : isBlank b = true := by
    rw [← isBlank_lowerChar_eq, h]
    decide
  rw [← lowerChar_of_isBlank hblank, h]

/-- What is lowered to the word, with the space behind it, is lowered letter by letter. -/
theorem map_lowerChar_of_lowerChars {word : List Char} (h : lowerChars word = "load".toList) :
    (∀ c ∈ word ++ [' '], c ≠ 'Σ' ∧ c ≠ 'İ') ∧
      (word ++ [' ']).map lowerChar = "load ".toList := by
  have hnil : lowerFrom [] word = "load".toList ++ [] := by rw [List.append_nil]; exact h
  obtain ⟨head, tail, rfl, hplain, hmap, htail⟩ := exists_of_lowerFrom_eq_append (by simp) hnil
  cases tail with
  | nil =>
    rw [List.append_nil, List.map_append, hmap]
    refine ⟨fun c hc => ?_, rfl⟩
    rcases List.mem_append.mp hc with hc | hc
    · exact hplain c hc
    · rw [List.mem_singleton.mp hc]
      decide
  | cons c tail =>
    obtain ⟨d, more, hcons, -⟩ := exists_lowerFrom_cons (head.reverse ++ []) c tail
    rw [hcons] at htail
    cases htail

/-- When small letters begin with `load` and a blank, the name of a saved game follows, behind
whatever blanks there are. -/
theorem exists_namesSlot {rest : String}
    (h : after? "load " (lower (trimStart left)) = some rest) :
    ∃ before typed, left = before ++ typed ∧ NamesSlot before typed := by
  have hlowered : lowerFrom [] (left.toList.dropWhile isBlank) = "load ".toList ++ rest.toList := by
    rw [← String.toList_append, ← after?_eq_some_iff.mp h, lower, trimStart, String.toList_ofList,
      String.toList_ofList]
    rfl
  obtain ⟨head, tail, hsplit, hplain, hmap, -⟩ :=
    exists_of_lowerFrom_eq_append (by simp) hlowered
  rw [loadMark_eq, List.map_eq_append_iff] at hmap
  obtain ⟨word, blank, rfl, hword, hblank⟩ := hmap
  obtain ⟨b, rest, rfl, hb, hrest⟩ := List.map_eq_cons_iff.mp hblank
  obtain rfl := List.map_eq_nil_iff.mp hrest
  obtain rfl := eq_space_of_lowerChar hb
  refine ⟨String.ofList (left.toList.takeWhile isBlank ++ (word ++ ' ' :: tail.takeWhile isBlank)),
    String.ofList (tail.dropWhile isBlank), ?_, ⟨⟨left.toList.takeWhile isBlank, word,
      tail.takeWhile isBlank, String.toList_ofList, ?_, ?_, ?_⟩, ?_⟩⟩
  · rw [← String.ofList_append, ← String.toList_inj, String.toList_ofList]
    calc left.toList = left.toList.takeWhile isBlank ++ left.toList.dropWhile isBlank :=
          List.takeWhile_append_dropWhile.symm
      _ = left.toList.takeWhile isBlank ++ ((word ++ [' ']) ++
            (tail.takeWhile isBlank ++ tail.dropWhile isBlank)) := by
          rw [hsplit, List.takeWhile_append_dropWhile]
      _ = _ := by simp
  · exact List.all_eq_true.mp List.all_takeWhile
  · rw [lowerChars_eq_map fun c hc => hplain c (List.mem_append_left _ hc), hword]
  · exact List.all_eq_true.mp List.all_takeWhile
  · intro c rest hcons
    rw [String.toList_ofList] at hcons
    exact isBlank_of_trimStartChars_eq_cons hcons

/-- The line in small letters is the word, a space, and what is typed behind some blanks. -/
theorem NamesSlot.exists_lower_eq (h : NamesSlot before typed) :
    ∃ ctx blanks, (∀ c ∈ blanks, isBlank c = true) ∧ lower (trimStart (before ++ typed)) =
      String.ofList ("load ".toList ++ lowerFrom (' ' :: ctx) (blanks ++ typed.toList)) := by
  obtain ⟨lead, word, blanks, hbefore, hlead, hword, hblanks⟩ := h.loads
  obtain ⟨hplain, hmap⟩ := map_lowerChar_of_lowerChars hword
  refine ⟨word.reverse, blanks, hblanks, ?_⟩
  have hkeep : ((word ++ [' ']) ++ (blanks ++ typed.toList)).dropWhile isBlank =
      (word ++ [' ']) ++ (blanks ++ typed.toList) := by
    obtain ⟨w, rest, hcons, hw, -⟩ := List.map_eq_cons_iff.mp hmap
    rw [hcons]
    refine List.dropWhile_cons_of_neg ?_
    rw [← isBlank_lowerChar_eq, hw]
    decide
  have hfront : (before ++ typed).toList.dropWhile isBlank =
      (word ++ [' ']) ++ (blanks ++ typed.toList) := by
    rw [String.toList_append, hbefore, List.append_assoc, List.dropWhile_append_of_pos hlead]
    simpa using hkeep
  rw [lower, trimStart, trimStartChars, String.toList_ofList, hfront, lowerChars,
    lowerFrom_append hplain, hmap, List.reverse_append, List.append_nil]
  rfl

/-- Behind `load` the name is read as it is typed, in small letters. -/
theorem NamesSlot.exists_after? (h : NamesSlot before typed) :
    ∃ rest, after? "load " (lower (trimStart (before ++ typed))) = some rest ∧
      trimStart rest = lower typed := by
  obtain ⟨ctx, blanks, hblanks, hlower⟩ := h.exists_lower_eq
  refine ⟨String.ofList (lowerFrom (' ' :: ctx) (blanks ++ typed.toList)), ?_, ?_⟩
  · rw [hlower, String.ofList_append, String.ofList_toList]
    exact after?_eq_some_iff.mpr rfl
  · have hname : (blanks ++ typed.toList).dropWhile isBlank = typed.toList := by
      rw [List.dropWhile_append_of_pos hblanks]
      cases hchars : typed.toList with
      | nil => rfl
      | cons c rest => exact List.dropWhile_cons_of_neg (by simp [h.bare c rest hchars])
    rw [trimStart_lowerFrom (by decide), hname, String.ofList_toList]

/-! ## Completing -/

/-- Command words are put in place of the whole text behind the first blanks. -/
theorem replaces_of_after?_eq_none (h : after? "load " (lower (trimStart left)) = none)
    (hbefore : left = before ++ trimStart left) :
    (complete shelf (left ++ right) left.utf8ByteSize).Replaces before (trimStart left) := by
  have hsize : left.utf8ByteSize = before.utf8ByteSize + (trimStart left).utf8ByteSize := by
    rw [← String.utf8ByteSize_append, ← hbefore]
  have hstart : (left.utf8ByteSize : Int) - (trimStart left).utf8ByteSize =
      before.utf8ByteSize := by
    omega
  unfold complete
  rw [takeBytes_line]
  simp only [h]
  split
  · exact ⟨hstart, fun text htext => (List.not_mem_nil htext).elim⟩
  · refine ⟨hstart, fun text htext => ?_⟩
    dsimp only at htext
    exact (List.mem_filter.mp htext).2

/-- The names of saved games are chosen by the name in small letters, and put in place of as many
bytes as it has. -/
theorem complete_of_after? {rest : String}
    (h : after? "load " (lower (trimStart left)) = some rest) :
    complete shelf (left ++ right) left.utf8ByteSize =
      { start := (left.utf8ByteSize : Int) - (trimStart rest).utf8ByteSize
        texts := shelf.slotNames.filter (beginsWith (trimStart rest)) } := by
  have htyped : (trimStart left).isEmpty = false := by
    rw [Bool.eq_false_iff]
    intro hempty
    have hnone : after? "load " (lower "") = none := by decide
    rw [String.isEmpty_iff.mp hempty, hnone] at h
    cases h
  unfold complete
  rw [takeBytes_line]
  simp [htyped, h]

/-- Behind `load`, the position is counted back from the cursor by the size of the small letters. -/
theorem replaces_of_namesSlot (hleft : left = before ++ typed) (hslot : NamesSlot before typed)
    (hc : complete shelf (left ++ right) left.utf8ByteSize = c) :
    (∀ text ∈ c.texts, beginsWith (lower typed) text = true) ∧
      c.start + (lower typed).utf8ByteSize = left.utf8ByteSize ∧
      (c.Replaces before typed ↔ (lower typed).utf8ByteSize = typed.utf8ByteSize) := by
  obtain ⟨rest, hrest, hname⟩ := hslot.exists_after?
  rw [← hleft] at hrest
  rw [complete_of_after? hrest, hname] at hc
  have hstart : c.start + (lower typed).utf8ByteSize = left.utf8ByteSize := by
    rw [← hc]
    exact Int.sub_add_cancel ..
  have htexts : ∀ text ∈ c.texts, beginsWith (lower typed) text = true := by
    intro text htext
    rw [← hc] at htext
    dsimp only at htext
    exact (List.mem_filter.mp htext).2
  have hsize : left.utf8ByteSize = before.utf8ByteSize + typed.utf8ByteSize := by
    rw [hleft, String.utf8ByteSize_append]
  refine ⟨htexts, hstart, ⟨fun h => ?_, fun h => ⟨?_, htexts⟩⟩⟩
  · have hbefore : c.start = before.utf8ByteSize := h.start
    omega
  · omega

/-- **What a completion replaces.** The cursor stands behind `left`, whatever follows it. Where no
saved game is named, the texts are put in place of what stands behind the first blanks, and begin
with it in small letters. Behind `load`, too, the names begin with what is typed in small letters,
but they are put in place of as many bytes as the small letters have: of what is typed exactly when
it has as many. A completion fits every line of the narrow character set. -/
theorem completion_replaces (shelf : Saves.Shelf) (left right : String) :
    let c := complete shelf (left ++ right) left.utf8ByteSize
    ((¬∃ before typed, left = before ++ typed ∧ NamesSlot before typed) →
        ∃ before, left = before ++ trimStart left ∧ c.Replaces before (trimStart left)) ∧
      (∀ before typed, left = before ++ typed → NamesSlot before typed →
        (∀ text ∈ c.texts, beginsWith (lower typed) text = true) ∧
          c.start + (lower typed).utf8ByteSize = left.utf8ByteSize ∧
          (c.Replaces before typed ↔ (lower typed).utf8ByteSize = typed.utf8ByteSize)) ∧
      ((∀ ch ∈ left.toList, ch.toNat < 0x80) → c.Fits left) := by
  intro c
  have hnames : ∀ before typed, left = before ++ typed → NamesSlot before typed →
      (∀ text ∈ c.texts, beginsWith (lower typed) text = true) ∧
        c.start + (lower typed).utf8ByteSize = left.utf8ByteSize ∧
        (c.Replaces before typed ↔ (lower typed).utf8ByteSize = typed.utf8ByteSize) :=
    fun before typed hleft hslot => replaces_of_namesSlot hleft hslot rfl
  have hother : (¬∃ before typed, left = before ++ typed ∧ NamesSlot before typed) →
      ∃ before, left = before ++ trimStart left ∧ c.Replaces before (trimStart left) := by
    intro hnone
    obtain ⟨before, hbefore⟩ := exists_trimStart left
    refine ⟨before, hbefore, replaces_of_after?_eq_none ?_ hbefore⟩
    rw [Option.eq_none_iff_forall_ne_some]
    exact fun rest hrest => hnone (exists_namesSlot hrest)
  refine ⟨hother, hnames, fun hnarrow => ?_⟩
  by_cases hslot : ∃ before typed, left = before ++ typed ∧ NamesSlot before typed
  · obtain ⟨before, typed, hleft, hslot⟩ := hslot
    have hsize : (lower typed).utf8ByteSize = typed.utf8ByteSize :=
      utf8ByteSize_lower fun ch hch => hnarrow ch (by simp [hleft, hch])
    exact ⟨before, typed, hleft, (hnames before typed hleft hslot).2.2.mpr hsize⟩
  · obtain ⟨before, hbefore, hreplaces⟩ := hother hslot
    exact ⟨before, trimStart left, hbefore, hreplaces⟩

/-- A shelf with one game of this version. -/
def shelfWith (slot : String) : Saves.Shelf where
  path := "saves"
  folder := .entries (.ofList [(Saves.fileName slot, Saves.Entry.file .empty (some 0))])

theorem cellar_replaces :
    (complete (shelfWith "cellar") "Load  Cel" 9).texts = ["cellar"] ∧
      (complete (shelfWith "cellar") "Load  Cel" 9).Replaces "Load  " "Cel" := by
  have hslot : NamesSlot "Load  " "Cel" := by
    refine ⟨⟨[], "Load".toList, [' '], rfl, by simp, by decide, ?_⟩, ?_⟩
    · exact List.forall_mem_singleton.mpr (by decide)
    · intro c rest hcons
      obtain ⟨rfl, -⟩ := List.cons.inj (hcons : ['C', 'e', 'l'] = c :: rest)
      decide
  have hreplaces :=
    ((completion_replaces (shelfWith "cellar") "Load  Cel" "").2.1 "Load  " "Cel" rfl hslot).2.2
  exact ⟨by decide +kernel, hreplaces.mpr (by decide +kernel)⟩

/-- A Kelvin sign has three bytes, and its small letter has one: the name of the saved game would be
put in place of the last byte of the sign. -/
theorem kelvin_cut : ¬(complete (shelfWith "k") "load \u212a" 8).Fits "load \u212a" := by
  rintro ⟨before, typed, hline, hreplaces⟩
  have hstart : (complete (shelfWith "k") "load \u212a" 8).start = 7 := by decide +kernel
  have hsize : before.utf8ByteSize = 7 := Int.ofNat.inj (hreplaces.start.symm.trans hstart)
  have hprefix : before.toList ∈ "load \u212a".toList.inits := by
    rw [List.mem_inits, hline, String.toList_append]
    exact List.prefix_append ..
  have hsizes : ∀ chars ∈ "load \u212a".toList.inits, (String.ofList chars).utf8ByteSize ≠ 7 := by
    decide +kernel
  exact hsizes _ hprefix (by rw [String.ofList_toList, hsize])

end TextAdventure
