import TextAdventure.Text.Blank
import TextAdventure.Text.Case

/-!
# Small letters

What lowering does to a text, besides its letters.

* **blanks** — nothing becomes blank by being lowered (`isBlank_lowerChar`), and a blank stays what
  it is (`lowerChar_of_isBlank`);
* **normal form** — what has been lowered is left alone when it is lowered again (`lower_lower`);
* **context** — only a capital sigma is lowered by what stands around it, and a blank hides what
  stands before it (`lowerFrom_of_blank`).
-/

namespace TextAdventure.Text

variable {c : Char} {s before rest : List Char} {n image : Nat}

/-! ## Codes in intervals -/

/-- No interval of one list meets one of the other. -/
def apart (spans spans' : List (Nat × Nat)) : Bool :=
  spans.all fun a => spans'.all fun b => Nat.blt a.2 b.1 || Nat.blt b.2 a.1

theorem inSpans_of_apart {spans spans' : List (Nat × Nat)} (hapart : apart spans spans' = true)
    (h : inSpans spans n = true) : inSpans spans' n = false := by
  obtain ⟨a, ha, hin⟩ := List.any_eq_true.mp h
  refine List.any_eq_false.mpr fun b hb => ?_
  have hab := List.all_eq_true.mp (List.all_eq_true.mp hapart a ha) b hb
  simp only [Bool.or_eq_true, Nat.blt_eq] at hab
  simp only [Bool.and_eq_true, decide_eq_true_iff] at hin ⊢
  omega

theorem inSpans_of_mem {spans : List (Nat × Nat)} {first last : Nat} (h : (first, last) ∈ spans)
    (hfirst : first ≤ n) (hlast : n ≤ last) : inSpans spans n = true :=
  List.any_eq_true.mpr ⟨(first, last), h, by simp [hfirst, hlast]⟩

/-- A character with a code that is none is the null character. -/
theorem toNat_ofNat (n : Nat) : (Char.ofNat n).toNat = n ∨ Char.ofNat n = '\x00' := by
  by_cases h : n.isValidChar
  · left
    unfold Char.ofNat
    rw [dif_pos h]
    rfl
  · right
    unfold Char.ofNat
    rw [dif_neg h]
    rfl

/-- The blanks as intervals of codes. -/
def blankSpans : List (Nat × Nat) := [
  (9, 13), (0x20, 0x20), (0x85, 0x85), (0xA0, 0xA0), (0x1680, 0x1680), (0x2000, 0x200A),
  (0x2028, 0x2029), (0x202F, 0x202F), (0x205F, 0x205F), (0x3000, 0x3000)]

theorem isBlank_iff : isBlank c = true ↔ inSpans blankSpans c.toNat = true := by
  unfold isBlank inSpans blankSpans
  simp only [List.any_cons, List.any_nil, Bool.or_eq_true, Bool.and_eq_true, decide_eq_true_iff,
    beq_iff_eq, Bool.or_false]
  omega

/-! ## The table of capitals -/

theorem CaseRun.covers_iff {r : CaseRun} :
    r.covers n = true ↔ r.first ≤ n ∧ n ≤ r.last ∧ (n - r.first) % r.step = 0 := by
  unfold CaseRun.covers
  simp [and_assoc]

/-- An image belongs to a run that covers the code it is the image of. -/
theorem exists_run_of_imageIn {runs : List CaseRun} (h : imageIn runs n = some image) :
    ∃ r ∈ runs, r.covers n = true ∧ image = r.image + (n - r.first) := by
  unfold imageIn at h
  obtain ⟨r, hfind, rfl⟩ := Option.map_eq_some_iff.mp h
  have hcovers := List.find?_some hfind
  exact ⟨r, List.mem_of_find?_eq_some hfind, hcovers, rfl⟩

theorem imageIn_eq_none {runs : List CaseRun} (h : ∀ r ∈ runs, r.covers n = false) :
    imageIn runs n = none := by
  unfold imageIn
  rw [Option.map_eq_none_iff, List.find?_eq_none]
  intro r hr
  rw [h r hr]
  decide

theorem blanks_apart_capitals :
    apart blankSpans (lowerRuns.map fun r => (r.first, r.last)) = true := by
  decide +kernel

theorem blanks_apart_images :
    apart blankSpans (lowerRuns.map fun r => (r.image, r.image + (r.last - r.first))) = true := by
  decide +kernel

/-- No letter of the table has a blank for its small form. -/
theorem isBlank_of_imageIn (h : imageIn lowerRuns n = some image) :
    isBlank (Char.ofNat image) = false := by
  obtain ⟨r, hr, hcovers, rfl⟩ := exists_run_of_imageIn h
  have hn := CaseRun.covers_iff.mp hcovers
  rw [Bool.eq_false_iff]
  intro hblank
  rcases toNat_ofNat (r.image + (n - r.first)) with hcode | hnull
  · have hspans := isBlank_iff.mp hblank
    rw [hcode] at hspans
    have hlast : r.image + (n - r.first) ≤ r.image + (r.last - r.first) := by omega
    have himage := inSpans_of_mem
      (List.mem_map_of_mem (f := fun r : CaseRun => (r.image, r.image + (r.last - r.first))) hr)
      (Nat.le_add_right ..) hlast
    rw [inSpans_of_apart blanks_apart_images hspans] at himage
    cases himage
  · rw [hnull] at hblank
    revert hblank
    decide

/-! ## Blanks -/

/-- The small form of a capital of the narrow character set. -/
theorem toNat_add_of_capital (h : 'A' ≤ c ∧ c ≤ 'Z') :
    ∃ n < 26, c.toNat + 32 = 'a'.toNat + n := by
  have hfirst : 'A'.toNat ≤ c.toNat := h.1
  have hlast : c.toNat ≤ 'Z'.toNat := h.2
  simp only [Char.reduceToNat] at *
  exact ⟨c.toNat - 65, by omega, by omega⟩

theorem isBlank_of_small : ∀ n < 26, isBlank (Char.ofNat ('a'.toNat + n)) = false := by
  decide +kernel

/-- What is not blank does not become blank when it is lowered. -/
theorem isBlank_lowerChar (h : isBlank c = false) : isBlank (lowerChar c) = false := by
  unfold lowerChar
  split
  · split
    · rename_i hcapital
      obtain ⟨n, hn, hcode⟩ := toNat_add_of_capital hcapital
      rw [hcode]
      exact isBlank_of_small n hn
    · exact h
  · split
    · exact isBlank_of_imageIn ‹_›
    · exact h

/-- A blank is left alone when it is lowered. -/
theorem lowerChar_of_isBlank (h : isBlank c = true) : lowerChar c = c := by
  have hspans := isBlank_iff.mp h
  have hnone : imageIn lowerRuns c.toNat = none := by
    refine imageIn_eq_none fun r hr => ?_
    rw [Bool.eq_false_iff]
    intro hcovers
    have hn := CaseRun.covers_iff.mp hcovers
    have hcapital := inSpans_of_mem
      (List.mem_map_of_mem (f := fun r : CaseRun => (r.first, r.last)) hr) hn.1 hn.2.1
    rw [inSpans_of_apart blanks_apart_capitals hspans] at hcapital
    cases hcapital
  have hcapital : ¬('A' ≤ c ∧ c ≤ 'Z') := by
    intro hletter
    have hletters : inSpans [('A'.toNat, 'Z'.toNat)] c.toNat = true :=
      inSpans_of_mem (List.mem_cons_self ..) hletter.1 hletter.2
    rw [inSpans_of_apart (by decide) hspans] at hletters
    cases hletters
  unfold lowerChar
  rw [if_neg hcapital, hnone]
  split <;> rfl

/-- Lowering keeps apart what is blank and what is not. -/
theorem isBlank_lowerChar_eq (c : Char) : isBlank (lowerChar c) = isBlank c := by
  cases h : isBlank c with
  | true => rw [lowerChar_of_isBlank h, h]
  | false => exact isBlank_lowerChar h

/-- The first character of what is lowered is as blank as it was. -/
theorem exists_lowerFrom_cons (before : List Char) (c : Char) (rest : List Char) :
    ∃ d more, lowerFrom before (c :: rest) = d :: (more ++ lowerFrom (c :: before) rest) ∧
      isBlank d = isBlank c := by
  rw [lowerFrom]
  by_cases hsigma : c = 'Σ'
  · refine ⟨if endsWord before rest then 'ς' else 'σ', [], by simp [hsigma], ?_⟩
    rw [hsigma]
    split <;> decide
  · by_cases hdotted : c = 'İ'
    · exact ⟨'i', ['\u0307'], by simp [hdotted], by rw [hdotted]; decide⟩
    · exact ⟨lowerChar c, [], by simp [hsigma, hdotted], isBlank_lowerChar_eq c⟩

theorem exists_lowerFrom (h : isBlank c = false) :
    ∃ d ∈ lowerFrom before (c :: rest), isBlank d = false := by
  obtain ⟨d, more, hlower, hblank⟩ := exists_lowerFrom_cons before c rest
  exact ⟨d, hlower ▸ List.mem_cons_self .., hblank.trans h⟩

/-! ## Lowering again -/

/-- Lowering leaves the character alone, wherever it stands. -/
structure IsSmall (c : Char) : Prop where
  not_sigma : c ≠ 'Σ'
  not_dotted : c ≠ 'İ'
  same : lowerChar c = c

theorem isSmall_space : IsSmall ' ' := ⟨by decide, by decide, by decide⟩

/-- No image under the run is covered by the other run: the codes lie apart, or they alternate. -/
def CaseRun.misses (r r' : CaseRun) : Bool :=
  Nat.blt (r.image + (r.last - r.first)) r'.first || Nat.blt r'.last r.image ||
    (r'.step == 2 && (r.step == 2 || r.first == r.last) && (r.image + r'.first) % 2 == 1)

theorem CaseRun.covers_of_misses {r r' : CaseRun} (hmisses : r.misses r' = true)
    (h : r.covers n = true) : r'.covers (r.image + (n - r.first)) = false := by
  have hn := covers_iff.mp h
  rw [Bool.eq_false_iff]
  intro hcovers
  have hn' := covers_iff.mp hcovers
  unfold misses at hmisses
  simp only [Bool.or_eq_true, Bool.and_eq_true, Nat.blt_eq, beq_iff_eq] at hmisses
  obtain (hbelow | habove) | ⟨⟨hstep', hstep | hsingle⟩, hodd⟩ := hmisses
  · omega
  · omega
  · rw [hstep] at hn
    rw [hstep'] at hn'
    omega
  · rw [hstep'] at hn'
    omega

/-- The capitals that are lowered in a way of their own, as runs. -/
def ownRuns : List CaseRun := [⟨'İ'.toNat, 'İ'.toNat, 2, 0⟩, ⟨'A'.toNat, 'Z'.toNat, 1, 0⟩]

/-- The small letters of the table are no capitals. -/
theorem runs_miss : lowerRuns.all (fun r => (ownRuns ++ lowerRuns).all r.misses) = true := by
  decide +kernel

/-- The image of a letter is left alone when it is lowered. -/
theorem isSmall_of_imageIn (h : imageIn lowerRuns n = some image) : IsSmall (Char.ofNat image) := by
  obtain ⟨r, hr, hcovers, rfl⟩ := exists_run_of_imageIn h
  have hmiss : ∀ r' ∈ ownRuns ++ lowerRuns, r'.covers (r.image + (n - r.first)) = false :=
    fun r' hr' => CaseRun.covers_of_misses
      (List.all_eq_true.mp (List.all_eq_true.mp runs_miss r hr) r' hr') hcovers
  rcases toNat_ofNat (r.image + (n - r.first)) with hcode | hnull
  · rw [← hcode] at hmiss
    generalize Char.ofNat (r.image + (n - r.first)) = c at hmiss
    have hnone : imageIn lowerRuns c.toNat = none :=
      imageIn_eq_none fun r' hr' => hmiss r' (List.mem_append_right _ hr')
    refine ⟨?_, ?_, ?_⟩
    · rintro rfl
      revert hnone
      decide +kernel
    · rintro rfl
      exact absurd (hmiss _ (List.mem_cons_self ..)) (by decide)
    · have hcapital : ¬('A' ≤ c ∧ c ≤ 'Z') := by
        intro hletter
        have hcode : CaseRun.covers ⟨'A'.toNat, 'Z'.toNat, 1, 0⟩ c.toNat = true :=
          CaseRun.covers_iff.mpr ⟨hletter.1, hletter.2, Nat.mod_one _⟩
        rw [hmiss _ (List.mem_cons_of_mem _ (List.mem_cons_self ..))] at hcode
        cases hcode
      unfold lowerChar
      rw [if_neg hcapital, hnone]
      split <;> rfl
  · rw [hnull]
    exact ⟨by decide, by decide, by decide⟩

theorem same_of_letter : ∀ n < 26,
    lowerChar (Char.ofNat ('a'.toNat + n)) = Char.ofNat ('a'.toNat + n) ∧
      (Char.ofNat ('a'.toNat + n)).toNat < 0x80 := by
  decide +kernel

/-- What comes of a single letter is left alone when it is lowered again. -/
theorem isSmall_lowerChar (hsigma : c ≠ 'Σ') (hdotted : c ≠ 'İ') : IsSmall (lowerChar c) := by
  by_cases hnarrow : c.toNat < 0x80
  · by_cases hcapital : 'A' ≤ c ∧ c ≤ 'Z'
    · obtain ⟨n, hn, hcode⟩ := toNat_add_of_capital hcapital
      have hlower : lowerChar c = Char.ofNat ('a'.toNat + n) := by
        unfold lowerChar
        rw [if_pos hnarrow, if_pos hcapital, hcode]
      obtain ⟨hsame, hlt⟩ := same_of_letter n hn
      rw [hlower]
      exact ⟨fun h => absurd (h ▸ hlt) (by decide), fun h => absurd (h ▸ hlt) (by decide), hsame⟩
    · have hlower : lowerChar c = c := by
        unfold lowerChar
        rw [if_pos hnarrow, if_neg hcapital]
      rw [hlower]
      exact ⟨hsigma, hdotted, hlower⟩
  · cases himage : imageIn lowerRuns c.toNat with
    | some image =>
      have hlower : lowerChar c = Char.ofNat image := by
        unfold lowerChar
        rw [if_neg hnarrow, himage]
      rw [hlower]
      exact isSmall_of_imageIn himage
    | none =>
      have hlower : lowerChar c = c := by
        unfold lowerChar
        rw [if_neg hnarrow, himage]
      rw [hlower]
      exact ⟨hsigma, hdotted, hlower⟩

/-- A lowered text consists of characters that lowering leaves alone. -/
theorem isSmall_of_mem_lowerFrom (h : c ∈ lowerFrom before s) : IsSmall c := by
  induction s generalizing before with
  | nil => cases h
  | cons d rest ih =>
    unfold lowerFrom at h
    simp only [List.mem_append] at h
    rcases h with h | h
    · split at h
      · rw [List.mem_singleton] at h
        subst h
        split <;> exact ⟨by decide, by decide, by decide +kernel⟩
      · split at h
        · simp only [List.mem_cons, List.not_mem_nil, or_false] at h
          rcases h with rfl | rfl <;> exact ⟨by decide, by decide, by decide +kernel⟩
        · rw [List.mem_singleton] at h
          rw [h]
          exact isSmall_lowerChar ‹_› ‹_›
    · exact ih h

theorem lowerFrom_cons_of_isSmall (h : IsSmall c) :
    lowerFrom before (c :: rest) = c :: lowerFrom (c :: before) rest := by
  rw [lowerFrom, if_neg h.not_sigma, if_neg h.not_dotted, h.same]
  rfl

theorem lowerFrom_eq_self (h : ∀ c ∈ s, IsSmall c) : lowerFrom before s = s := by
  induction s generalizing before with
  | nil => rfl
  | cons c rest ih =>
    rw [lowerFrom_cons_of_isSmall (h c (List.mem_cons_self ..)),
      ih fun d hd => h d (List.mem_cons_of_mem _ hd)]

theorem isSmall_of_mem_lower {text : String} (h : c ∈ (lower text).toList) : IsSmall c := by
  unfold lower lowerChars at h
  rw [String.toList_ofList] at h
  exact isSmall_of_mem_lowerFrom h

/-- A text of small letters is left alone. -/
theorem lower_eq_self {text : String} (h : ∀ c ∈ text.toList, IsSmall c) : lower text = text := by
  unfold lower lowerChars
  rw [lowerFrom_eq_self h, String.ofList_toList]

/-- **Lowering a text again** changes nothing. -/
theorem lower_lower (text : String) : lower (lower text) = lower text :=
  lower_eq_self fun _ => isSmall_of_mem_lower

/-! ## What stands before -/

theorem blanks_apart_cased : apart blankSpans casedSpans = true := by
  decide +kernel

theorem blanks_apart_passedOver : apart blankSpans passedOverSpans = true := by
  decide +kernel

theorem meetsCased_append_blank (h : isBlank c = true) :
    meetsCased (s ++ c :: before) = meetsCased s := by
  have hspans := isBlank_iff.mp h
  induction s with
  | nil =>
    show meetsCased (c :: before) = false
    rw [meetsCased, inSpans_of_apart blanks_apart_passedOver hspans,
      inSpans_of_apart blanks_apart_cased hspans]
    rfl
  | cons d rest ih =>
    rw [List.cons_append, meetsCased, meetsCased, ih]

theorem lowerFrom_append_blank (h : isBlank c = true) :
    lowerFrom (s ++ c :: before) rest = lowerFrom s rest := by
  induction rest generalizing s with
  | nil => rfl
  | cons d rest ih =>
    rw [lowerFrom, lowerFrom, endsWord, endsWord, meetsCased_append_blank h, ← List.cons_append, ih]

/-- A text behind a blank is lowered as if it stood alone. -/
theorem lowerFrom_of_blank (h : isBlank c = true) :
    lowerFrom (c :: before) rest = lowerFrom [] rest :=
  lowerFrom_append_blank (s := []) h

/-- Blanks hide what stands before them. -/
theorem lowerFrom_of_blanks {blanks : List Char} (hc : isBlank c = true)
    (h : ∀ d ∈ blanks, isBlank d = true) :
    lowerFrom (blanks ++ c :: before) rest = lowerFrom [] rest := by
  cases blanks with
  | nil => exact lowerFrom_of_blank hc
  | cons d blanks => exact lowerFrom_of_blank (h d (List.mem_cons_self ..))

/-- Characters that are neither sigma nor a dotted I are lowered one by one. -/
theorem lowerFrom_append (h : ∀ c ∈ s, c ≠ 'Σ' ∧ c ≠ 'İ') :
    lowerFrom before (s ++ rest) = s.map lowerChar ++ lowerFrom (s.reverse ++ before) rest := by
  induction s generalizing before with
  | nil => rfl
  | cons c s ih =>
    obtain ⟨hsigma, hdotted⟩ := h c (List.mem_cons_self ..)
    rw [List.cons_append, lowerFrom, if_neg hsigma, if_neg hdotted,
      ih fun d hd => h d (List.mem_cons_of_mem _ hd)]
    simp

theorem lowerChars_eq_map (h : ∀ c ∈ s, c ≠ 'Σ' ∧ c ≠ 'İ') : lowerChars s = s.map lowerChar := by
  have happend : lowerFrom [] (s ++ []) = s.map lowerChar ++ lowerFrom (s.reverse ++ []) [] :=
    lowerFrom_append h
  rwa [lowerFrom, List.append_nil, List.append_nil] at happend

/-- The blanks at the front of a text are those of the lowered text. -/
theorem dropWhile_lowerFrom :
    (lowerFrom before s).dropWhile isBlank =
      lowerFrom ((s.takeWhile isBlank).reverse ++ before) (s.dropWhile isBlank) := by
  induction s generalizing before with
  | nil => rfl
  | cons c rest ih =>
    by_cases hblank : isBlank c = true
    · have hkeep : lowerFrom before (c :: rest) = c :: lowerFrom (c :: before) rest := by
        have hplain : ∀ d ∈ [c], d ≠ 'Σ' ∧ d ≠ 'İ' := by
          intro d hd
          rw [List.mem_singleton.mp hd]
          constructor <;> rintro rfl <;> revert hblank <;> decide
        simpa [lowerChar_of_isBlank hblank] using
          (lowerFrom_append hplain : lowerFrom before ([c] ++ rest) = _)
      rw [hkeep, List.dropWhile_cons_of_pos hblank, ih, List.takeWhile_cons_of_pos hblank,
        List.dropWhile_cons_of_pos hblank, List.reverse_cons, List.append_assoc]
      rfl
    · obtain ⟨d, more, hlower, hd⟩ := exists_lowerFrom_cons before c rest
      rw [List.takeWhile_cons_of_neg hblank, List.dropWhile_cons_of_neg hblank, List.reverse_nil,
        List.nil_append, hlower, List.dropWhile_cons_of_neg (by rw [hd]; exact hblank)]

end TextAdventure.Text
