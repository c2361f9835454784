import TextAdventure.Proofs.Flag.Text
import TextAdventure.Proofs.Text.Case

/-!
# Words and phrases

A text is cut into words, and words are put together to a phrase with single spaces between them.
The words of a phrase are those it was put together from (`words_phrase`), and nothing is trimmed
off it (`trim_phrase`). If they are in small letters, nothing changes either when the phrase is
lowered first (`words_lower_phrase`).
-/

namespace TextAdventure.Text

variable {c : Char} {s word : List Char} {text w : String} {ws : List String}

/-! ## The words of a text -/

/-- The text is not empty and holds no blank. -/
structure IsWord (w : String) : Prop where
  not_empty : w ≠ ""
  no_blank : ∀ c ∈ w.toList, isBlank c = false

theorem isWord_of_mem_words (h : w ∈ words text) : IsWord w := by
  obtain ⟨chars, hchars, rfl⟩ := List.mem_map.mp h
  obtain ⟨hne, hall⟩ := mem_wordsOf hchars
  refine ⟨fun hempty => hne ?_, fun c hc => ?_⟩
  · rw [← String.toList_inj, String.toList_ofList] at hempty
    exact hempty
  · rw [String.toList_ofList] at hc
    simpa using List.all_eq_true.mp hall c hc

theorem IsWord.exists_cons (h : IsWord w) :
    ∃ c rest, w.toList = c :: rest ∧ isBlank c = false := by
  obtain ⟨c, rest, hw⟩ :=
    List.exists_cons_of_ne_nil fun hnil => h.not_empty (String.toList_eq_nil_iff.mp hnil)
  exact ⟨c, rest, hw, h.no_blank c (hw ▸ List.mem_cons_self ..)⟩

theorem IsWord.isClosed (h : IsWord w) : isClosed w = true := by
  have hne : w.toList ≠ [] := fun hnil => h.not_empty (String.toList_eq_nil_iff.mp hnil)
  rw [isClosed_iff]
  exact ⟨w.toList.getLast hne, List.getLast?_eq_some_getLast hne,
    h.no_blank _ (List.getLast_mem hne)⟩

/-- A text that is more than blanks has words. -/
theorem wordsFrom_ne_nil (h : word ≠ [] ∨ ∃ c ∈ s, isBlank c = false) :
    wordsFrom word s ≠ [] := by
  induction s generalizing word with
  | nil =>
    have hword : word ≠ [] := h.resolve_right fun ⟨c, hc, _⟩ => List.not_mem_nil hc
    simp [wordsFrom, hword]
  | cons c rest ih =>
    unfold wordsFrom
    split
    · rename_i hblank
      split
      · rename_i hword
        refine ih (.inr ?_)
        obtain ⟨d, hd, hnot⟩ := h.resolve_left (not_not_intro (List.isEmpty_iff.mp hword))
        rcases List.mem_cons.mp hd with rfl | hd
        · rw [hblank] at hnot
          cases hnot
        · exact ⟨d, hd, hnot⟩
      · exact List.cons_ne_nil _ _
    · exact ih (.inl (List.cons_ne_nil _ _))

/-- The characters of the words are characters of the text. -/
theorem mem_of_mem_wordsFrom (h : w.toList ∈ wordsFrom word s) (hc : c ∈ w.toList) :
    c ∈ word ∨ c ∈ s := by
  induction s generalizing word with
  | nil =>
    by_cases hword : word = []
    · simp [wordsFrom, hword] at h
    · simp only [wordsFrom, List.isEmpty_iff, hword, if_false, List.mem_singleton] at h
      rw [h] at hc
      exact .inl (List.mem_reverse.mp hc)
  | cons d rest ih =>
    have hrest : ∀ {before : List Char}, w.toList ∈ wordsFrom before rest →
        c ∈ before ∨ c ∈ d :: rest := fun hmem =>
      (ih hmem).imp_right (List.mem_cons_of_mem _)
    unfold wordsFrom at h
    split at h
    · split at h
      · exact .inr ((hrest h).resolve_left List.not_mem_nil)
      · rcases List.mem_cons.mp h with hfirst | h
        · rw [hfirst] at hc
          exact .inl (List.mem_reverse.mp hc)
        · exact .inr ((hrest h).resolve_left List.not_mem_nil)
    · rcases hrest h with hmem | hmem
      · rcases List.mem_cons.mp hmem with rfl | hmem
        · exact .inr (List.mem_cons_self ..)
        · exact .inl hmem
      · exact .inr hmem

theorem mem_of_mem_words (h : w ∈ words text) (hc : c ∈ w.toList) : c ∈ text.toList := by
  obtain ⟨chars, hchars, rfl⟩ := List.mem_map.mp h
  rw [← String.toList_ofList (l := chars)] at hchars
  exact (mem_of_mem_wordsFrom hchars hc).resolve_left List.not_mem_nil

/-! ## Phrases -/

theorem isClosed_intercalate {mark : String} {parts : List String} (hne : parts ≠ [])
    (h : ∀ part ∈ parts, isClosed part = true) : isClosed (mark.intercalate parts) = true := by
  induction parts with
  | nil => exact (hne rfl).elim
  | cons part rest ih =>
    by_cases hrest : rest = []
    · rw [hrest, String.intercalate_singleton]
      exact h part (List.mem_cons_self ..)
    · rw [String.intercalate_cons_of_ne_nil hrest]
      exact isClosed_append (String.toList_append ..)
        (ih hrest fun part' hmem => h part' (List.mem_cons_of_mem _ hmem))

/-- What is read of a word is added to what has been read. -/
theorem wordsFrom_append (h : ∀ c ∈ s, isBlank c = false) (rest : List Char) :
    wordsFrom word (s ++ rest) = wordsFrom (s.reverse ++ word) rest := by
  induction s generalizing word with
  | nil => rfl
  | cons c s ih =>
    have hc : isBlank c = false := h c (List.mem_cons_self ..)
    rw [List.cons_append, wordsFrom, hc, if_neg Bool.false_ne_true,
      ih fun d hd => h d (List.mem_cons_of_mem _ hd), List.reverse_cons, List.append_assoc]
    rfl

/-- **The words of a phrase** are those it was put together from. -/
theorem words_phrase (h : ∀ w ∈ ws, IsWord w) : words (" ".intercalate ws) = ws := by
  induction ws with
  | nil => rfl
  | cons w rest ih =>
    have hw : IsWord w := h w (List.mem_cons_self ..)
    have hne : (w.toList.reverse ++ []).isEmpty = false := by
      obtain ⟨c, more, hchars, -⟩ := hw.exists_cons
      simp [hchars]
    have hfirst : String.ofList (w.toList.reverse ++ []).reverse = w := by simp
    by_cases hrest : rest = []
    · rw [hrest, String.intercalate_singleton, words, wordsOf, ← List.append_nil w.toList,
        wordsFrom_append hw.no_blank, wordsFrom, hne, if_neg Bool.false_ne_true, List.map_singleton,
        hfirst]
    · have hspace : isBlank ' ' = true := by decide
      have hsplit : (" ".intercalate (w :: rest)).toList =
          w.toList ++ ' ' :: (" ".intercalate rest).toList := by
        rw [String.intercalate_cons_of_ne_nil hrest, String.toList_append, String.toList_append,
          List.append_assoc]
        rfl
      have hmore : (wordsFrom [] (" ".intercalate rest).toList).map String.ofList = rest :=
        ih fun w' hw' => h w' (List.mem_cons_of_mem _ hw')
      rw [words, wordsOf, hsplit, wordsFrom_append hw.no_blank, wordsFrom, hspace, if_pos rfl, hne,
        if_neg Bool.false_ne_true, List.map_cons, hfirst, hmore]

/-- Nothing is trimmed off a phrase. -/
theorem trim_phrase (h : ∀ w ∈ ws, IsWord w) : trim (" ".intercalate ws) = " ".intercalate ws := by
  cases ws with
  | nil => rfl
  | cons w rest =>
    obtain ⟨c, more, hchars, hblank⟩ := (h w (List.mem_cons_self ..)).exists_cons
    have hclosed : isClosed (" ".intercalate (w :: rest)) = true :=
      isClosed_intercalate (List.cons_ne_nil _ _) fun w' hw' => (h w' hw').isClosed
    by_cases hrest : rest = []
    · rw [hrest, String.intercalate_singleton] at hclosed ⊢
      exact trim_eq_self hchars hblank hclosed
    · have hstart : (" ".intercalate (w :: rest)).toList =
          c :: (more ++ (" ".toList ++ (" ".intercalate rest).toList)) := by
        rw [String.intercalate_cons_of_ne_nil hrest, String.toList_append, String.toList_append,
          hchars, List.append_assoc, List.cons_append]
      exact trim_eq_self hstart hblank hclosed

/-- A phrase consists of the characters of its words and of spaces. -/
theorem mem_phrase (h : c ∈ (" ".intercalate ws).toList) : c = ' ' ∨ ∃ w ∈ ws, c ∈ w.toList := by
  induction ws with
  | nil => cases h
  | cons w rest ih =>
    by_cases hrest : rest = []
    · rw [hrest, String.intercalate_singleton] at h
      exact .inr ⟨w, List.mem_cons_self .., h⟩
    · rw [String.intercalate_cons_of_ne_nil hrest, String.toList_append, String.toList_append,
        List.mem_append, List.mem_append] at h
      rcases h with (h | h) | h
      · exact .inr ⟨w, List.mem_cons_self .., h⟩
      · exact .inl (List.mem_singleton.mp h)
      · rcases ih h with hspace | ⟨w', hw', hc⟩
        · exact .inl hspace
        · exact .inr ⟨w', List.mem_cons_of_mem _ hw', hc⟩

/-- A phrase of words in small letters has these words when it is trimmed and lowered. -/
theorem words_lower_phrase (hwords : ∀ w ∈ ws, IsWord w)
    (hsmall : ∀ w ∈ ws, ∀ c ∈ w.toList, IsSmall c) :
    words (lower (trim (" ".intercalate ws))) = ws := by
  have hphrase : ∀ c ∈ (" ".intercalate ws).toList, IsSmall c := by
    intro c hc
    rcases mem_phrase hc with rfl | ⟨w, hw, hc⟩
    · exact isSmall_space
    · exact hsmall w hw c hc
  rw [trim_phrase hwords, lower_eq_self hphrase, words_phrase hwords]

end TextAdventure.Text
