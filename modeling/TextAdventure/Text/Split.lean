import TextAdventure.Text.Blank

/-!
# Cutting text at marks

A text is cut at single characters (the terms of a clause, the lines of a
message) or at a longer mark (the version mark of a file name), and the head or
tail of a text can be taken off when it reads as expected.
-/

namespace TextAdventure.Text

/-! ## Cutting at a character -/

/-- The pieces between the occurrences of `mark`; there is always one more
piece than there are marks. `piece` is the part being read, last character
first. -/
def splitFrom (mark : Char) (piece : List Char) : List Char → List (List Char)
  | [] => [piece.reverse]
  | c :: rest =>
    if c = mark then piece.reverse :: splitFrom mark [] rest
    else splitFrom mark (c :: piece) rest

/-- The pieces of a text between the occurrences of a character. -/
def splitAt (mark : Char) (s : String) : List String :=
  (splitFrom mark [] s.toList).map String.ofList

/-- What stands before and after the first occurrence of `mark`. -/
def cutChars? (mark : Char) : List Char → Option (List Char × List Char)
  | [] => none
  | c :: rest =>
    if c = mark then some ([], rest)
    else (cutChars? mark rest).map fun (before, after) => (c :: before, after)

/-- What stands before and after the first occurrence of a character. -/
def cut? (mark : Char) (s : String) : Option (String × String) :=
  (cutChars? mark s.toList).map fun (before, after) =>
    (String.ofList before, String.ofList after)

theorem eq_of_cutChars? {mark : Char} {s before after : List Char}
    (h : cutChars? mark s = some (before, after)) : s = before ++ mark :: after := by
  induction s generalizing before with
  | nil => cases h
  | cons c rest ih =>
    unfold cutChars? at h
    split at h
    · rename_i hc
      cases h
      rw [hc]
      rfl
    · obtain ⟨⟨before', after'⟩, hrest, heq⟩ := Option.map_eq_some_iff.mp h
      cases heq
      rw [ih hrest]
      rfl

/-- A text is what stands before the mark it is cut at, the mark, and what stands after it. -/
theorem toList_of_cut? {mark : Char} {s before after : String}
    (h : cut? mark s = some (before, after)) :
    s.toList = before.toList ++ mark :: after.toList := by
  obtain ⟨⟨before', after'⟩, hcut, heq⟩ := Option.map_eq_some_iff.mp h
  cases heq
  simp [eq_of_cutChars? hcut]

/-- A line without the carriage return it may end with. -/
def dropReturn (line : List Char) : List Char :=
  if line.getLast? = some '\r' then line.dropLast else line

/-- The lines of a text. A line ends at a line feed, with or without a carriage
return before it; what follows the last line feed is a line unless it is
empty, and it keeps its carriage return. -/
def linesFrom (line : List Char) : List Char → List (List Char)
  | [] => if line.isEmpty then [] else [line.reverse]
  | c :: rest =>
    if c = '\n' then dropReturn line.reverse :: linesFrom [] rest
    else linesFrom (c :: line) rest

def lines (s : String) : List String := (linesFrom [] s.toList).map String.ofList

/-! ## Taking off a head or a tail -/

/-- What follows `head` in a sequence that begins with it. -/
def dropHead? (head s : List Char) : Option (List Char) :=
  match head, s with
  | [], s => some s
  | _ :: _, [] => none
  | h :: head, c :: s => if h = c then dropHead? head s else none

/-- What follows `head` in a text that begins with it. -/
def after? (head s : String) : Option String :=
  (dropHead? head.toList s.toList).map String.ofList

/-- What precedes `tail` in a text that ends with it. -/
def before? (tail s : String) : Option String :=
  (dropHead? tail.toList.reverse s.toList.reverse).map fun r => String.ofList r.reverse

/-- The text begins with `head`. -/
def beginsWith (head s : String) : Bool := head.toList.isPrefixOf s.toList

theorem dropHead?_eq_some_iff {head s rest : List Char} :
    dropHead? head s = some rest ↔ s = head ++ rest := by
  induction head generalizing s with
  | nil => simp [dropHead?, eq_comm]
  | cons h head ih =>
    cases s with
    | nil => simp [dropHead?]
    | cons c s =>
      by_cases hc : h = c
      · simp [dropHead?, hc, ih]
      · simp [dropHead?, hc, Ne.symm hc]

/-! ## Searching for a longer mark -/

/-- The sequence occurs somewhere in the other. -/
def occursIn (part : List Char) : List Char → Bool
  | [] => part.isEmpty
  | c :: rest => part.isPrefixOf (c :: rest) || occursIn part rest

def contains (part s : String) : Bool := occursIn part.toList s.toList

/-- What stands before and after the last occurrence of `mark`. -/
def cutLastChars? (mark : List Char) : List Char → Option (List Char × List Char)
  | [] => (dropHead? mark []).map fun rest => ([], rest)
  | c :: rest =>
    match cutLastChars? mark rest with
    | some (before, after) => some (c :: before, after)
    | none => (dropHead? mark (c :: rest)).map fun rest => ([], rest)

/-- What stands before and after the last occurrence of a mark. -/
def cutLast? (mark s : String) : Option (String × String) :=
  (cutLastChars? mark.toList s.toList).map fun (before, after) =>
    (String.ofList before, String.ofList after)

/-! ## Replacing -/

/-- Replaces the occurrences of `mark`, found from left to right without
overlap, by `new`. The counter is the number of characters still belonging to
the occurrence last replaced. -/
def replaceFrom (mark new : List Char) : Nat → List Char → List Char
  | _, [] => []
  | skip + 1, _ :: rest => replaceFrom mark new skip rest
  | 0, c :: rest =>
    if mark.isPrefixOf (c :: rest) then new ++ replaceFrom mark new (mark.length - 1) rest
    else c :: replaceFrom mark new 0 rest

/-- Replaces every occurrence of a mark, which is not empty, by another text. -/
def replace (mark new s : String) : String :=
  String.ofList (replaceFrom mark.toList new.toList 0 s.toList)

end TextAdventure.Text
