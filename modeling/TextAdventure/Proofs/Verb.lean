import TextAdventure.Proofs.Text.Words
import TextAdventure.Verb

/-!
# Verbs and their names

The name of a verb in flags has no blank at its end, as long as the words that it was read from are
more than blanks (`isClosed_key`): a letter never becomes blank when it is lowered, and the words of
a text are put together again with blanks only between them.

A verb that was read is read again from its name and from the player's words for it (`ofText_key`,
`ofText_text`): the built-in verbs are among their own synonyms, and the word of any other verb is
normalized and no synonym. So verbs that were read have different names, and the guards of their
scores are different (`scoreGuard_ofText_eq_iff`).
-/

namespace TextAdventure

open Text

namespace Verb

/-- The words of a verb end in a character that is no blank. -/
theorem isClosed_normalize {word : String} (h : lower (trim word) ≠ "") :
    isClosed (normalize word) = true := by
  refine isClosed_intercalate ?_ fun w hw => (isWord_of_mem_words hw).isClosed
  have hwords : wordsOf (lower (trim word)).toList ≠ [] := by
    refine wordsFrom_ne_nil (.inr ?_)
    unfold lower lowerChars at h ⊢
    cases htrim : (trim word).toList with
    | nil =>
      rw [htrim] at h
      exact (h rfl).elim
    | cons c rest =>
      rw [String.toList_ofList]
      exact exists_lowerFrom (isBlank_of_trim htrim)
  simpa [words] using hwords

/-- A verb without a built-in meaning is its own word. -/
theorem eq_of_ofNormalized {word word' : String} (h : ofNormalized word = other word') :
    word' = word := by
  unfold ofNormalized at h
  split at h <;> cases h
  rfl

/-- **The name of a verb** in flags ends in a character that is no blank. -/
theorem isClosed_key {word : String} (h : lower (trim word) ≠ "") :
    isClosed (ofText word).key = true := by
  have hclosed := isClosed_normalize h
  unfold ofText
  generalize normalize word = phrase at hclosed ⊢
  cases hverb : ofNormalized phrase with
  | other word' => exact eq_of_ofNormalized hverb ▸ hclosed
  | _ => decide +kernel

/-! ## Reading a verb again -/

/-- What has been normalized is left alone when it is normalized again. -/
theorem normalize_normalize (word : String) : normalize (normalize word) = normalize word := by
  have hwords : words (lower (trim (normalize word))) = words (lower (trim word)) :=
    words_lower_phrase (fun _ => isWord_of_mem_words)
      fun _ hw _ hc => isSmall_of_mem_lower (mem_of_mem_words hw hc)
  show " ".intercalate (words (lower (trim (normalize word)))) = normalize word
  rw [hwords]
  rfl

/-- A verb without a built-in meaning is read again from its own word. -/
theorem ofText_of_other {word own : String} (h : ofText word = other own) :
    ofText own = other own := by
  have hown : own = normalize word := eq_of_ofNormalized h
  have hsame : normalize own = normalize word := by rw [hown, normalize_normalize]
  unfold ofText at h ⊢
  rw [hsame, h]

/-- A verb that was read is read again from its name. -/
theorem ofText_key (word : String) : ofText (ofText word).key = ofText word := by
  cases hverb : ofText word with
  | other own => exact ofText_of_other hverb
  | _ => decide +kernel

/-- A verb that was read is read again from the player's words for it. -/
theorem ofText_text (word : String) : ofText (ofText word).text = ofText word := by
  cases hverb : ofText word with
  | other own => exact ofText_of_other hverb
  | _ => decide +kernel

/-- Verbs that were read are told apart by their names. -/
theorem key_ofText_eq_iff {word word' : String} :
    (ofText word).key = (ofText word').key ↔ ofText word = ofText word' := by
  constructor
  · intro h
    calc ofText word = ofText (ofText word).key := (ofText_key word).symm
      _ = ofText (ofText word').key := by rw [h]
      _ = ofText word' := ofText_key word'
  · exact congrArg key

/-- The guards of two scores are the same for the same verb on the same object only. -/
theorem scoreGuard_ofText_eq_iff {word word' : String} {object object' : Id} :
    (ofText word).scoreGuard object = (ofText word').scoreGuard object' ↔
      object = object' ∧ ofText word = ofText word' := by
  unfold scoreGuard
  rw [Flag.interactionScored.injEq, key_ofText_eq_iff]

end Verb

end TextAdventure
