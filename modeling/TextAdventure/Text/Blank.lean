/-!
# White space

The characters that separate words, and the two operations on text that depend
on them: trimming and cutting into words.

* no blank stands first in a text whose front is trimmed
  (`isBlank_of_trimStartChars_eq_cons`), and trimming the end leaves the front
  as it is (`trimEndChars_cons`);
* the words of a text hold no blank and are never empty (`mem_wordsOf`).
-/

namespace TextAdventure.Text

/-- The characters with the White_Space property: the ASCII controls from tab
to carriage return, the space, and the spaces of the wider character set. -/
def isBlank (c : Char) : Bool :=
  let n := c.toNat
  (9 ≤ n && n ≤ 13) || n == 0x20 || n == 0x85 || n == 0xA0 || n == 0x1680
    || (0x2000 ≤ n && n ≤ 0x200A) || n == 0x2028 || n == 0x2029 || n == 0x202F
    || n == 0x205F || n == 0x3000

def trimStartChars (s : List Char) : List Char := s.dropWhile isBlank

/-- A character sequence without the blanks it ends with. -/
def trimEndChars (s : List Char) : List Char := (s.reverse.dropWhile isBlank).reverse

/-- A character sequence without the blanks at either end. -/
def trimChars (s : List Char) : List Char := trimEndChars (trimStartChars s)

/-- A text without the blanks it begins with. -/
def trimStart (s : String) : String := String.ofList (trimStartChars s.toList)

/-- A text without the blanks at either end. -/
def trim (s : String) : String := String.ofList (trimChars s.toList)

/-- The maximal blank-free runs of a character sequence, in order. `word` is
the part of the run being read, last character first. -/
def wordsFrom (word : List Char) : List Char → List (List Char)
  | [] => if word.isEmpty then [] else [word.reverse]
  | c :: rest =>
    if isBlank c then
      if word.isEmpty then wordsFrom [] rest else word.reverse :: wordsFrom [] rest
    else wordsFrom (c :: word) rest

def wordsOf (s : List Char) : List (List Char) := wordsFrom [] s

/-- The words of a text: what stands between its blanks. -/
def words (s : String) : List String := (wordsOf s.toList).map String.ofList

/-! ## Trimming -/

/-- No blank stands first once the blanks at the front are gone. -/
theorem isBlank_of_trimStartChars_eq_cons {s rest : List Char} {c : Char}
    (h : trimStartChars s = c :: rest) : isBlank c = false := by
  have hdrop : s.dropWhile isBlank = c :: rest := h
  have hne : s.dropWhile isBlank ≠ [] := by simp [hdrop]
  simpa [hdrop] using List.head_dropWhile_not isBlank hne

/-- Trimming the end takes nothing off the front of a sequence that begins with
no blank. -/
theorem trimEndChars_cons {c : Char} (s : List Char) (h : isBlank c = false) :
    trimEndChars (c :: s) = c :: trimEndChars s := by
  by_cases he : ((s.reverse).dropWhile isBlank).isEmpty
  · simp [trimEndChars, List.dropWhile_append, h, List.isEmpty_iff.1 he]
  · simp [trimEndChars, List.dropWhile_append, he]

/-! ## Words -/

/-- Every word is written without blanks and has a first character, provided
the part already read is blank-free. -/
theorem mem_wordsFrom {word s w : List Char} (hword : word.all (!isBlank ·) = true)
    (h : w ∈ wordsFrom word s) : w ≠ [] ∧ w.all (!isBlank ·) = true := by
  induction s generalizing word with
  | nil =>
    cases hw : word with
    | nil => simp [wordsFrom, hw] at h
    | cons c r =>
      subst hw
      simp only [wordsFrom, List.isEmpty_cons, Bool.false_eq_true, if_false,
        List.mem_singleton] at h
      subst h
      exact ⟨by simp, by simpa [and_comm] using hword⟩
  | cons c rest ih =>
    by_cases hc : isBlank c
    · cases hw : word with
      | nil => simp [wordsFrom, hc, hw] at h; exact ih (by simp) h
      | cons d r =>
        subst hw
        simp only [wordsFrom, hc, if_true, List.isEmpty_cons, Bool.false_eq_true, if_false,
          List.mem_cons] at h
        rcases h with h | h
        · subst h; exact ⟨by simp, by simpa [and_comm] using hword⟩
        · exact ih (by simp) h
    · simp only [wordsFrom, hc, Bool.false_eq_true, if_false] at h
      exact ih (by simpa [hc] using hword) h

/-- A word is never empty and holds no blank. -/
theorem mem_wordsOf {s w : List Char} (h : w ∈ wordsOf s) :
    w ≠ [] ∧ w.all (!isBlank ·) = true := mem_wordsFrom (by simp) h

end TextAdventure.Text
