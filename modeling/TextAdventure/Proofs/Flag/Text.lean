import Mathlib.Data.List.DropRight
import TextAdventure.Flag.Name

/-!
# Flags and their texts

A flag is written as a text and read from one. Reading and then writing gives the text without the
blanks around it (`text_ofText`), so that what was once read from a text is read back from its own
(`ofText_text_ofText`).

Writing and then reading does not always give the flag. An id that is empty or ends in a blank is
not told from the text around it, and neither is an object with a slash in its id from the verb
behind the slash. A flag is `isLegible` when its ids have no such faults, and these flags are the
ones that are read back (`ofText_text_iff`).
-/

namespace TextAdventure

/-! ## Texts -/

namespace Text

variable {mark c : Char} {s before after : List Char}

/-- The text ends in a character that is no blank. -/
def isClosed (s : String) : Bool := s.toList.getLast?.any (!isBlank ·)

theorem isClosed_iff {s : String} :
    isClosed s = true ↔ ∃ c, s.toList.getLast? = some c ∧ isBlank c = false := by
  unfold isClosed
  rw [Option.any_eq_true]
  simp

theorem cutChars?_append (h : mark ∉ before) :
    cutChars? mark (before ++ mark :: after) = some (before, after) := by
  induction before with
  | nil => simp [cutChars?]
  | cons c before ih =>
    rw [List.mem_cons, not_or] at h
    simp [cutChars?, Ne.symm h.1, ih h.2]

/-- A sequence is cut where the mark stands first. -/
theorem not_mem_of_cutChars? (h : cutChars? mark s = some (before, after)) : mark ∉ before := by
  induction s generalizing before with
  | nil => cases h
  | cons c rest ih =>
    unfold cutChars? at h
    split at h
    · cases h
      exact List.not_mem_nil
    · rename_i hc
      obtain ⟨⟨before', after'⟩, hrest, heq⟩ := Option.map_eq_some_iff.mp h
      cases heq
      rw [List.mem_cons, not_or]
      exact ⟨Ne.symm hc, ih hrest⟩

theorem cut?_eq_some {text first last : String} (h : mark ∉ first.toList)
    (htext : text.toList = first.toList ++ mark :: last.toList) :
    cut? mark text = some (first, last) := by
  unfold cut?
  rw [htext, cutChars?_append h]
  simp

theorem not_mem_of_cut? {text first last : String} (h : cut? mark text = some (first, last)) :
    mark ∉ first.toList := by
  obtain ⟨⟨before, after⟩, hcut, heq⟩ := Option.map_eq_some_iff.mp h
  cases heq
  rw [String.toList_ofList]
  exact not_mem_of_cutChars? hcut

/-- Nothing is dropped off a sequence that ends in something else. -/
theorem rdropWhile_eq_self {p : Char → Bool} (h : ∀ c, s.getLast? = some c → p c = false) :
    s.rdropWhile p = s := by
  refine List.rdropWhile_eq_self_iff.mpr fun hne => ?_
  rw [h _ (List.getLast?_eq_some_getLast hne)]
  decide

/-- What is to be dropped does not stand last any more. -/
theorem of_getLast?_rdropWhile {p : Char → Bool} (h : (s.rdropWhile p).getLast? = some c) :
    p c = false := by
  have hnot := List.rdropWhile_last_not p s (List.ne_nil_of_mem (List.mem_of_getLast? h))
  rw [← List.getLast_of_getLast?_eq_some h]
  exact Bool.eq_false_iff.mpr hnot

/-- Nothing is trimmed off a sequence that has no blank at its end. -/
theorem trimEndChars_eq_self (h : ∀ c, s.getLast? = some c → isBlank c = false) :
    trimEndChars s = s :=
  rdropWhile_eq_self h

/-- No blank stands last once the blanks at the end are gone. -/
theorem isBlank_of_getLast?_trimEndChars (h : (trimEndChars s).getLast? = some c) :
    isBlank c = false :=
  of_getLast?_rdropWhile h

theorem trimChars_trimChars (s : List Char) : trimChars (trimChars s) = trimChars s := by
  unfold trimChars
  cases hs : trimStartChars s with
  | nil => rfl
  | cons c rest =>
    have hc := isBlank_of_trimStartChars_eq_cons hs
    have hkeep : trimStartChars (c :: trimEndChars rest) = c :: trimEndChars rest := by
      simp [trimStartChars, hc]
    have hend : trimEndChars (trimEndChars rest) = trimEndChars rest :=
      List.rdropWhile_idempotent isBlank rest
    rw [trimEndChars_cons rest hc, hkeep, trimEndChars_cons _ hc, hend]

theorem trim_trim (s : String) : trim (trim s) = trim s := by
  unfold trim
  rw [String.toList_ofList, trimChars_trimChars]

/-- A trimmed text begins with no blank. -/
theorem isBlank_of_trim {s : String} (h : (trim s).toList = c :: after) : isBlank c = false := by
  unfold trim trimChars at h
  rw [String.toList_ofList] at h
  cases hstart : trimStartChars s.toList with
  | nil =>
    rw [hstart] at h
    cases h
  | cons d rest =>
    have hd := isBlank_of_trimStartChars_eq_cons hstart
    rw [hstart, trimEndChars_cons rest hd] at h
    rw [← (List.cons.inj h).1]
    exact hd

/-- Nothing is trimmed off a text that has no blank at either end. -/
theorem trim_eq_self {s : String} {rest : List Char} (hs : s.toList = c :: rest)
    (hfirst : isBlank c = false) (hlast : isClosed s = true) : trim s = s := by
  obtain ⟨d, hd, hblank⟩ := isClosed_iff.mp hlast
  have hstart : trimStartChars s.toList = s.toList := by
    unfold trimStartChars
    rw [hs, List.dropWhile_cons_of_neg (by rw [hfirst]; decide)]
  have hend : trimEndChars s.toList = s.toList := by
    refine trimEndChars_eq_self fun c hc => ?_
    rw [hd] at hc
    exact Option.some.inj hc ▸ hblank
  unfold trim trimChars
  rw [hstart, hend, String.ofList_toList]

/-- What follows something in a trimmed text has no blank at its end. -/
theorem isClosed_of_trim {s last : String} (htext : (trim s).toList = before ++ last.toList)
    (hne : last ≠ "") : isClosed last = true := by
  have hnil : last.toList ≠ [] := by simpa using hne
  rw [isClosed_iff]
  refine ⟨last.toList.getLast hnil, List.getLast?_eq_some_getLast hnil, ?_⟩
  have hlast : (trim s).toList.getLast? = some (last.toList.getLast hnil) := by
    rw [htext, List.getLast?_append, List.getLast?_eq_some_getLast hnil]
    rfl
  unfold trim trimChars at hlast
  rw [String.toList_ofList] at hlast
  exact isBlank_of_getLast?_trimEndChars hlast

/-- A text ends as its last part does. -/
theorem isClosed_append {text last : String} (htext : text.toList = before ++ last.toList)
    (h : isClosed last = true) : isClosed text = true := by
  obtain ⟨c, hc, hblank⟩ := isClosed_iff.mp h
  rw [isClosed_iff, htext, List.getLast?_append, hc]
  exact ⟨c, rfl, hblank⟩

theorem ne_empty_of_isClosed {s : String} (h : isClosed s = true) : s ≠ "" := by
  rintro rfl
  cases h

/-- A text without the blanks it ends with. -/
def trimEnd (s : String) : String := String.ofList (trimEndChars s.toList)

theorem trimEndChars_append_cons (before : List Char) (h : isBlank c = false) (after : List Char) :
    trimEndChars (before ++ c :: after) = before ++ c :: trimEndChars after := by
  have hlast := trimEndChars_cons after h
  unfold trimEndChars at hlast ⊢
  rw [List.reverse_append, List.dropWhile_append, if_neg, List.reverse_append, hlast,
    List.reverse_reverse]
  intro hnil
  rw [List.isEmpty_iff.mp hnil, List.reverse_nil] at hlast
  cases hlast

theorem isClosed_trimEnd {s : String} (h : trimEnd s ≠ "") : isClosed (trimEnd s) = true := by
  have hnil : (trimEnd s).toList ≠ [] := by simpa using h
  rw [isClosed_iff]
  refine ⟨_, List.getLast?_eq_some_getLast hnil, ?_⟩
  have hlast := List.getLast?_eq_some_getLast hnil
  unfold trimEnd at hlast ⊢
  simp only [String.toList_ofList] at hlast ⊢
  exact isBlank_of_getLast?_trimEndChars hlast

end Text

open Text

namespace Flag

variable {f : Flag} {kind id object verb text : String}

/-! ## Kinds with an id -/

/-- The word for the kind and the id of a flag that is written with these two. -/
def parts? : Flag → Option (String × Id)
  | .objectOpen id => some ("open", id)
  | .objectLocked id => some ("locked", id)
  | .objectRevealed id => some ("revealed", id)
  | .sceneVisited id => some ("visited", id)
  | .lightOn id => some ("on", id)
  | .lightDead id => some ("dead", id)
  | .exitScored id => some ("exit-scored", id)
  | .achievement id => some ("achievement", id)
  | .light | .interactionScored _ _ | .custom _ => none

theorem ofKind?_eq_some_iff : ofKind? kind id = some f ↔ f.parts? = some (kind, id) := by
  constructor
  · intro h
    unfold ofKind? at h
    split at h <;> cases h <;> rfl
  · intro h
    cases f <;> cases h <;> rfl

/-- The words for the kinds hold no colon, begin with no blank, and are none of the words for other
flags. -/
theorem word_of_parts? (h : f.parts? = some (kind, id)) :
    ':' ∉ kind.toList ∧ kind ≠ "scored" ∧
      ∃ c rest, kind.toList = c :: rest ∧ isBlank c = false := by
  cases f <;> cases h <;> exact ⟨by decide, by decide, _, _, rfl, by decide⟩

theorem toList_of_parts? (h : f.parts? = some (kind, id)) :
    f.text.toList = kind.toList ++ ':' :: id.toList := by
  cases f <;> cases h <;> simp [Flag.text]

theorem toList_scored (object verb : String) :
    (interactionScored object verb).text.toList =
      "scored".toList ++ ':' :: (object.toList ++ '/' :: verb.toList) := by
  simp [Flag.text]

/-! ## Reading -/

/-- A text with a colon in it is not the word for the light. -/
theorem ofText_of_colon {before after : List Char} (h : text.toList = before ++ ':' :: after)
    (htrim : trim text = text) : ofText text = (ofTyped? text).getD (custom text) := by
  have hlight : text ≠ "light" := by
    rintro rfl
    have hmem : ':' ∈ "light".toList := h ▸ List.mem_append_right _ (List.mem_cons_self ..)
    exact absurd hmem (by decide)
  unfold ofText
  simp only [htrim, if_neg hlight]

/-- **What a text is read as**: the word for the light, a kind with an id, a scored interaction, or
anything else. -/
theorem ofText_cases (t : String) :
    (ofText t = light ∧ trim t = "light") ∨
    (∃ kind id, (ofText t).parts? = some (kind, id) ∧ id ≠ "" ∧
      (trim t).toList = kind.toList ++ ':' :: id.toList) ∨
    (∃ object verb, ofText t = interactionScored object verb ∧ object ≠ "" ∧ verb ≠ "" ∧
      '/' ∉ object.toList ∧
      (trim t).toList = "scored".toList ++ ':' :: (object.toList ++ '/' :: verb.toList)) ∨
    ofText t = custom (trim t) := by
  unfold ofText
  simp only
  split
  · exact .inl ⟨rfl, ‹_›⟩
  · cases htyped : ofTyped? (trim t) with
    | none => exact .inr (.inr (.inr rfl))
    | some f =>
      unfold ofTyped? at htyped
      split at htyped
      · rename_i kind id hcut
        have htext := toList_of_cut? hcut
        split at htyped
        · cases htyped
        · rename_i hid
          have hid : id ≠ "" := by simpa using hid
          split at htyped
          · rename_i hkind
            subst hkind
            unfold ofScored? at htyped
            split at htyped
            · rename_i object verb hpair
              split at htyped
              · cases htyped
              · rename_i hparts
                cases htyped
                rw [toList_of_cut? hpair] at htext
                simp only [Bool.or_eq_true, String.isEmpty_iff, not_or] at hparts
                exact .inr (.inr (.inl ⟨object, verb, rfl, hparts.1, hparts.2,
                  not_mem_of_cut? hpair, htext⟩))
            · cases htyped
          · exact .inr (.inl ⟨kind, id, ofKind?_eq_some_iff.mp htyped, hid, htext⟩)
      · cases htyped

/-- Reading a text and writing what was read takes off the blanks around it, and nothing else. -/
theorem text_ofText (t : String) : (ofText t).text = trim t := by
  rcases ofText_cases t with
    ⟨hf, htext⟩ | ⟨kind, id, hf, -, htext⟩ | ⟨object, verb, hf, -, -, -, htext⟩ | hf
  · rw [hf, htext]
    rfl
  · exact String.toList_inj.mp ((toList_of_parts? hf).trans htext.symm)
  · rw [hf]
    exact String.toList_inj.mp ((toList_scored object verb).trans htext.symm)
  · rw [hf]
    rfl

theorem ofText_trim (t : String) : ofText (trim t) = ofText t := by
  unfold ofText
  rw [trim_trim]

/-- What was read from a text is read back from its own. -/
theorem ofText_text_ofText (t : String) : ofText (ofText t).text = ofText t := by
  rw [text_ofText, ofText_trim]

/-! ## Legible flags -/

/-- The ids of the flag are told apart in its text. -/
def isLegible (f : Flag) : Bool :=
  match f with
  | .interactionScored object _ => !object.isEmpty && !object.toList.contains '/'
  | f => f.parts?.all fun (_, id) => isClosed id

theorem isLegible_of_parts? (h : f.parts? = some (kind, id)) : f.isLegible = isClosed id := by
  cases f <;> cases h <;> rfl

theorem isLegible_scored_iff : (interactionScored object verb).isLegible = true ↔
    object ≠ "" ∧ '/' ∉ object.toList := by
  simp [isLegible]

theorem isLegible_ofText (t : String) : (ofText t).isLegible = true := by
  rcases ofText_cases t with
    ⟨hf, -⟩ | ⟨kind, id, hf, hid, htext⟩ | ⟨object, verb, hf, hobject, -, hslash, -⟩ | hf
  · rw [hf]
    rfl
  · rw [isLegible_of_parts? hf]
    rw [List.append_cons] at htext
    exact isClosed_of_trim htext hid
  · rw [hf, isLegible_scored_iff]
    exact ⟨hobject, hslash⟩
  · rw [hf]
    rfl

/-- A flag of a kind is read back when its id has an end. -/
theorem ofText_of_parts? (h : f.parts? = some (kind, id)) (hid : isClosed id = true) :
    ofText f.text = f := by
  obtain ⟨hcolon, hscored, c, rest, hkind, hfirst⟩ := word_of_parts? h
  have htext := toList_of_parts? h
  have htrim : trim f.text = f.text := by
    refine trim_eq_self (by rw [htext, hkind, List.cons_append]) hfirst ?_
    exact isClosed_append (by rw [htext, List.append_cons]) hid
  rw [ofText_of_colon htext htrim]
  unfold ofTyped?
  rw [cut?_eq_some hcolon htext]
  simp [ne_empty_of_isClosed hid, hscored, ofKind?_eq_some_iff.mpr h]

/-- Blanks at the end of an id are not read. -/
theorem trim_text_of_parts? (h : f.parts? = some (kind, id)) :
    (trim f.text).toList = kind.toList ++ ':' :: (trimEnd id).toList := by
  obtain ⟨-, -, c, rest, hkind, hfirst⟩ := word_of_parts? h
  have hstart : trimStartChars f.text.toList = f.text.toList := by
    unfold trimStartChars
    rw [toList_of_parts? h, hkind, List.cons_append,
      List.dropWhile_cons_of_neg (by rw [hfirst]; decide)]
  unfold trim trimChars trimEnd
  rw [hstart, toList_of_parts? h, trimEndChars_append_cons _ (by decide), String.toList_ofList,
    String.toList_ofList]

/-- A flag of a kind is read back with its id up to the blanks at the end. -/
theorem parts?_ofText_text (h : f.parts? = some (kind, id)) (hid : trimEnd id ≠ "") :
    (ofText f.text).parts? = some (kind, trimEnd id) := by
  obtain ⟨g, hg⟩ : ∃ g : Flag, g.parts? = some (kind, trimEnd id) := by
    cases f <;> cases h
    · exact ⟨.objectOpen _, rfl⟩
    · exact ⟨.objectLocked _, rfl⟩
    · exact ⟨.objectRevealed _, rfl⟩
    · exact ⟨.sceneVisited _, rfl⟩
    · exact ⟨.lightOn _, rfl⟩
    · exact ⟨.lightDead _, rfl⟩
    · exact ⟨.exitScored _, rfl⟩
    · exact ⟨.achievement _, rfl⟩
  have htext : trim f.text = g.text :=
    String.toList_inj.mp ((trim_text_of_parts? h).trans (toList_of_parts? hg).symm)
  rw [← ofText_trim, htext, ofText_of_parts? hg (isClosed_trimEnd hid), hg]

/-- With nothing but blanks for an id a flag is read back as one that the author has made up. -/
theorem ofText_text_of_blank (h : f.parts? = some (kind, id)) (hid : trimEnd id = "") :
    ofText f.text = custom (trim f.text) := by
  have htext := trim_text_of_parts? h
  rw [← ofText_trim, ofText_of_colon htext (trim_trim _)]
  unfold ofTyped?
  rw [cut?_eq_some (word_of_parts? h).1 htext, hid]
  rfl

/-- A scored interaction is read back when there is no slash in the id of its object and its verb
has an end. -/
theorem ofText_scored (hobject : object ≠ "") (hslash : '/' ∉ object.toList)
    (hverb : isClosed verb = true) :
    ofText (interactionScored object verb).text = interactionScored object verb := by
  have htext := toList_scored object verb
  have hpair : (object ++ "/" ++ verb).toList = object.toList ++ '/' :: verb.toList := by
    simp
  have hclosed : isClosed (interactionScored object verb).text = true := by
    have hlast : (interactionScored object verb).text.toList =
        ("scored".toList ++ ':' :: (object.toList ++ ['/'])) ++ verb.toList := by
      rw [htext]
      simp
    exact isClosed_append hlast hverb
  rw [ofText_of_colon htext (trim_eq_self htext (by decide) hclosed)]
  unfold ofTyped?
  have hcut : cut? ':' (interactionScored object verb).text =
      some ("scored", object ++ "/" ++ verb) :=
    cut?_eq_some (by decide) (by rw [htext, hpair])
  rw [hcut]
  unfold ofScored?
  simp [cut?_eq_some hslash hpair, hobject, ne_empty_of_isClosed hverb]

/-- **A flag is read back from its text** exactly when it is legible. For a scored interaction the
verb must have an end, and a flag that an author has made up may be written like another one. -/
theorem ofText_text_iff (hverb : ∀ object verb, f = interactionScored object verb →
    isClosed verb = true) (hcustom : ∀ name, f ≠ custom name) :
    ofText f.text = f ↔ f.isLegible = true := by
  constructor
  · intro h
    rw [← h]
    exact isLegible_ofText f.text
  · intro h
    cases hparts : f.parts? with
    | some parts =>
      rw [isLegible_of_parts? hparts] at h
      exact ofText_of_parts? hparts h
    | none =>
      cases f with
      | light => decide +kernel
      | interactionScored object verb =>
        obtain ⟨hobject, hslash⟩ := isLegible_scored_iff.mp h
        exact ofText_scored hobject hslash (hverb object verb rfl)
      | custom name => exact (hcustom name rfl).elim
      | _ => cases hparts

end Flag

end TextAdventure
