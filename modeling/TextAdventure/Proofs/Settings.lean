import Mathlib.Tactic.LinearCombination
import Mathlib.Tactic.Zify
import TextAdventure.Settings

/-!
# Filling in messages

A template consists of marks for the verb and the object, and of characters that are left as they
are (`TemplatePart`). Filling it in at once puts a text for every mark and takes nothing that is put
in for a mark (`fillOnce`). Messages are filled in by two passes, first the verb and then the
object.

* **passes** — the second pass goes over what the first has put in, so that a verb that brings a
  mark for the object has it filled in as well (`fill_echo`);
* **agreement** — the two passes put in the same as a single one exactly when the first brings no
  further mark for the object, or when the object is such a mark itself (`fill_eq_fillOnce_iff`).
  The first brings none where a character of the mark stands neither in the verb nor by itself in
  the template.
-/

namespace TextAdventure

open Text

/-! ## Parts of a template -/

def verbMark : String := "\x7bverb\x7d"

def objectMark : String := "\x7bobject\x7d"

/-- A part of a template: a mark that is filled in, or a character that is left as it is. -/
inductive TemplatePart where
  | verb
  | object
  | char (c : Char)
deriving DecidableEq

/-- The parts of a template, from left to right. -/
def templateParts : List Char → List TemplatePart
  | '\x7b' :: 'v' :: 'e' :: 'r' :: 'b' :: '\x7d' :: rest => .verb :: templateParts rest
  | '\x7b' :: 'o' :: 'b' :: 'j' :: 'e' :: 'c' :: 't' :: '\x7d' :: rest =>
    .object :: templateParts rest
  | c :: rest => .char c :: templateParts rest
  | [] => []

/-- What is put for a part when `verb` and `object` are filled in. -/
def TemplatePart.filled (verb object : List Char) : TemplatePart → List Char
  | .verb => verb
  | .object => object
  | .char c => [c]

/-- What a part is written as. -/
abbrev TemplatePart.written : TemplatePart → List Char :=
  filled verbMark.toList objectMark.toList

/-- Fills in both at once: what is put in is taken as it is. -/
def fillOnce (template verb object : String) : String :=
  String.ofList
    ((templateParts template.toList).flatMap (TemplatePart.filled verb.toList object.toList))

/-- The number of marks for the object. -/
def objectMarks (template : String) : Nat := (templateParts template.toList).count .object

variable {new verb object s rest : List Char} {c d : Char} {ps qs : List TemplatePart}
  {p : TemplatePart}

theorem templateParts_cons (hverb : ¬verbMark.toList <+: c :: rest)
    (hobject : ¬objectMark.toList <+: c :: rest) :
    templateParts (c :: rest) = .char c :: templateParts rest := by
  rw [templateParts]
  · rintro rest' rfl rfl
    exact hverb (List.prefix_append verbMark.toList rest')
  · rintro rest' rfl rfl
    exact hobject (List.prefix_append objectMark.toList rest')

/-! ## One pass -/

theorem replaceFrom_cons {mark : List Char} (h : ¬mark <+: c :: rest) :
    replaceFrom mark new 0 (c :: rest) = c :: replaceFrom mark new 0 rest := by
  rw [replaceFrom, if_neg (by rwa [List.isPrefixOf_iff_prefix])]

/-- Replacing a mark goes along the parts of a template if it goes along each kind of them. -/
theorem replaceFrom_eq_flatMap {mark : List Char} {put : TemplatePart → List Char}
    (hverb : ∀ rest, replaceFrom mark new 0 (verbMark.toList ++ rest) =
      put .verb ++ replaceFrom mark new 0 rest)
    (hobject : ∀ rest, replaceFrom mark new 0 (objectMark.toList ++ rest) =
      put .object ++ replaceFrom mark new 0 rest)
    (hchar : ∀ c rest, ¬verbMark.toList <+: c :: rest → ¬objectMark.toList <+: c :: rest →
      replaceFrom mark new 0 (c :: rest) = put (.char c) ++ replaceFrom mark new 0 rest)
    (s : List Char) : replaceFrom mark new 0 s = (templateParts s).flatMap put := by
  fun_induction templateParts s with
  | case1 rest ih => exact (hverb rest).trans (congrArg (put .verb ++ ·) ih)
  | case2 rest ih => exact (hobject rest).trans (congrArg (put .object ++ ·) ih)
  | case3 c rest hnotVerb hnotObject ih =>
    rw [List.flatMap_cons, ← ih]
    refine hchar c rest ?_ ?_
    · rintro ⟨rest', h⟩
      exact hnotVerb rest' (List.cons.inj h).1.symm (List.cons.inj h).2.symm
    · rintro ⟨rest', h⟩
      exact hnotObject rest' (List.cons.inj h).1.symm (List.cons.inj h).2.symm
  | case4 => rfl

/-- The pass that fills in the verb leaves the marks for the object. -/
theorem replaceFrom_verb (new s : List Char) : replaceFrom verbMark.toList new 0 s =
    (templateParts s).flatMap (TemplatePart.filled new objectMark.toList) :=
  replaceFrom_eq_flatMap (fun _ => rfl) (fun _ => rfl)
    (fun _ _ hnotVerb _ => replaceFrom_cons hnotVerb) s

/-- The pass that fills in the object leaves the marks for the verb. -/
theorem replaceFrom_object (new s : List Char) : replaceFrom objectMark.toList new 0 s =
    (templateParts s).flatMap (TemplatePart.filled verbMark.toList new) :=
  replaceFrom_eq_flatMap (fun _ => rfl) (fun _ => rfl)
    (fun _ _ _ hnotObject => replaceFrom_cons hnotObject) s

/-- **Messages are filled in by two passes**, each of which takes what it puts in as it is. -/
theorem fill_eq_fillOnce_fillOnce (template verb object : String) :
    fill template verb object =
      fillOnce (fillOnce template verb objectMark) verbMark object := by
  have hverb : Text.replace verbMark verb template = fillOnce template verb objectMark :=
    congrArg String.ofList (replaceFrom_verb verb.toList template.toList)
  calc fill template verb object
      = Text.replace objectMark object (fillOnce template verb objectMark) :=
        congrArg (Text.replace objectMark object) hverb
    _ = fillOnce (fillOnce template verb objectMark) verbMark object :=
        congrArg String.ofList (replaceFrom_object object.toList _)

/-! ## Reading a text that has been filled in -/

/-- `qs` is what parts `ps` are read as once they are written: the same, but that some characters of
theirs make up parts of `qs`. -/
inductive ReadAs : List TemplatePart → List TemplatePart → Prop
  | nil : ReadAs [] []
  | same (p : TemplatePart) {ps qs : List TemplatePart} (h : ReadAs ps qs) :
    ReadAs (p :: ps) (p :: qs)
  | found (p : TemplatePart) {ps qs : List TemplatePart} (h : ReadAs ps qs) :
    ReadAs (p.written.map .char ++ ps) (p :: qs)

/-- Characters that begin no mark are characters among the parts as well. -/
theorem exists_of_flatMap_written_eq_append (hs : '\x7b' ∉ s)
    (h : ps.flatMap TemplatePart.written = s ++ rest) :
    ∃ ps', ps = s.map .char ++ ps' ∧ ps'.flatMap TemplatePart.written = rest := by
  induction s generalizing ps with
  | nil => exact ⟨ps, rfl, h⟩
  | cons d s ih =>
    rw [List.mem_cons, not_or] at hs
    match ps with
    | [] => cases h
    | .verb :: _ => exact (hs.1 (List.cons.inj h).1).elim
    | .object :: _ => exact (hs.1 (List.cons.inj h).1).elim
    | .char c :: ps =>
      obtain ⟨rfl, hrest⟩ := List.cons.inj h
      obtain ⟨ps', rfl, hwritten⟩ := ih hs.2 hrest
      exact ⟨ps', rfl, hwritten⟩

/-- **Parts that are written** are read as the same parts, but for marks that their characters make
up. -/
theorem readAs_templateParts (ps : List TemplatePart) :
    ReadAs ps (templateParts (ps.flatMap TemplatePart.written)) := by
  match ps with
  | [] => exact .nil
  | .verb :: ps => exact .same .verb (readAs_templateParts ps)
  | .object :: ps => exact .same .object (readAs_templateParts ps)
  | .char c :: ps =>
    -- a mark that begins with the character goes on along characters
    by_cases hverb : verbMark.toList <+: c :: ps.flatMap TemplatePart.written
    · obtain ⟨rest, h⟩ := hverb
      obtain ⟨rfl, htail⟩ := List.cons.inj h
      obtain ⟨ps, rfl, rfl⟩ :=
        exists_of_flatMap_written_eq_append (s := "verb\x7d".toList) (by decide) htail.symm
      rw [List.flatMap_cons, ← htail]
      exact .found .verb (readAs_templateParts ps)
    · by_cases hobject : objectMark.toList <+: c :: ps.flatMap TemplatePart.written
      · obtain ⟨rest, h⟩ := hobject
        obtain ⟨rfl, htail⟩ := List.cons.inj h
        obtain ⟨ps, rfl, rfl⟩ :=
          exists_of_flatMap_written_eq_append (s := "object\x7d".toList) (by decide) htail.symm
        rw [List.flatMap_cons, ← htail]
        exact .found .object (readAs_templateParts ps)
      · have hread : templateParts ((.char c :: ps).flatMap TemplatePart.written) =
            .char c :: templateParts (ps.flatMap TemplatePart.written) :=
          templateParts_cons hverb hobject
        rw [hread]
        exact .same (.char c) (readAs_templateParts ps)
termination_by ps.length

/-! ## Marks that are found -/

theorem flatMap_filled_map_char (verb object s : List Char) :
    (s.map TemplatePart.char).flatMap (TemplatePart.filled verb object) = s := by
  induction s with
  | nil => rfl
  | cons c s ih => exact congrArg (c :: ·) ih

/-- Characters are no marks. -/
theorem count_map_char_append (s : List Char) (ps : List TemplatePart) :
    (s.map TemplatePart.char ++ ps).count .object = ps.count .object := by
  rw [List.count_append, List.count_eq_zero.mpr (by simp), Nat.zero_add]

namespace ReadAs

/-- Nothing is lost by reading. -/
theorem written_eq (h : ReadAs ps qs) :
    ps.flatMap TemplatePart.written = qs.flatMap TemplatePart.written := by
  induction h with
  | nil => rfl
  | same p _ ih => rw [List.flatMap_cons, List.flatMap_cons, ih]
  | found p _ ih => rw [List.flatMap_append, flatMap_filled_map_char, List.flatMap_cons, ih]

/-- Reading can only find more marks. -/
theorem count_le (h : ReadAs ps qs) : ps.count .object ≤ qs.count .object := by
  induction h with
  | nil => exact Nat.le_refl _
  | same p _ ih =>
    rw [List.count_cons, List.count_cons]
    exact Nat.add_le_add_right ih _
  | found p _ ih =>
    rw [count_map_char_append, List.count_cons]
    exact Nat.le_add_right_of_le ih

/-- Where no further mark for the object is found the same is put for it. -/
theorem filled_eq (h : ReadAs ps qs) (hcount : qs.count .object = ps.count .object) :
    qs.flatMap (TemplatePart.filled verbMark.toList object) =
      ps.flatMap (TemplatePart.filled verbMark.toList object) := by
  induction h with
  | nil => rfl
  | same p _ ih =>
    rw [List.count_cons, List.count_cons, Nat.add_right_cancel_iff] at hcount
    rw [List.flatMap_cons, List.flatMap_cons, ih hcount]
  | found p h ih =>
    rw [count_map_char_append] at hcount
    rw [List.flatMap_append, flatMap_filled_map_char, List.flatMap_cons]
    cases p with
    | object =>
      rw [List.count_cons_self] at hcount
      exact absurd h.count_le (by omega)
    | verb | char c =>
      rw [List.count_cons_of_ne (by simp)] at hcount
      rw [ih hcount]
      rfl

/-- No further mark for the object is found where one of its characters is missing. -/
theorem count_eq_of_not_mem (h : ReadAs ps qs) (hd : d ∈ objectMark.toList)
    (hmissing : .char d ∉ ps) : qs.count .object = ps.count .object := by
  induction h with
  | nil => rfl
  | same p _ ih =>
    rw [List.mem_cons, not_or] at hmissing
    rw [List.count_cons, List.count_cons, ih hmissing.2]
  | found p _ ih =>
    rw [List.mem_append, not_or] at hmissing
    rw [count_map_char_append]
    cases p with
    | object => exact (hmissing.1 (List.mem_map_of_mem hd)).elim
    | verb | char c => rw [List.count_cons_of_ne (by simp), ih hmissing.2]

end ReadAs

/-- Every mark for the object gives way to what is put for it. -/
theorem length_flatMap_filled (object : List Char) (ps : List TemplatePart) :
    (ps.flatMap (TemplatePart.filled verbMark.toList object)).length +
        objectMark.toList.length * ps.count .object =
      (ps.flatMap TemplatePart.written).length + object.length * ps.count .object := by
  induction ps with
  | nil => rfl
  | cons p ps ih =>
    dsimp only [TemplatePart.written] at ih ⊢
    rw [List.flatMap_cons, List.flatMap_cons, List.length_append, List.length_append]
    cases p with
    | object =>
      rw [List.count_cons_self, Nat.mul_succ, Nat.mul_succ]
      dsimp only [TemplatePart.filled]
      omega
    | verb | char c =>
      rw [List.count_cons_of_ne (by simp)]
      dsimp only [TemplatePart.filled]
      omega

namespace ReadAs

/-- The same can be put for a mark that is found as for its characters only if it is the mark. -/
theorem eq_mark_or_count_eq (h : ReadAs ps qs)
    (heq : qs.flatMap (TemplatePart.filled verbMark.toList object) =
      ps.flatMap (TemplatePart.filled verbMark.toList object)) :
    object = objectMark.toList ∨ qs.count .object = ps.count .object := by
  by_cases hsize : object.length = objectMark.toList.length
  · -- both are of one size, and so can be compared part by part
    induction h with
    | nil => exact .inr rfl
    | same p _ ih =>
      rw [List.flatMap_cons, List.flatMap_cons, List.append_cancel_left_eq] at heq
      exact (ih heq).imp_right fun hcount => by rw [List.count_cons, List.count_cons, hcount]
    | found p _ ih =>
      rw [List.flatMap_append, flatMap_filled_map_char, List.flatMap_cons] at heq
      rw [count_map_char_append]
      cases p with
      | object => exact .inl (List.append_inj_left heq hsize)
      | verb | char c =>
        exact (ih (List.append_cancel_left heq)).imp_right fun hcount => by
          rw [List.count_cons_of_ne (by simp), hcount]
  · -- otherwise the number of marks can be told from the size of the whole
    refine .inr ?_
    have hps := length_flatMap_filled object ps
    have hqs := length_flatMap_filled object qs
    rw [heq, ← h.written_eq] at hqs
    have hzero : ((object.length : Int) - objectMark.toList.length) *
        ((qs.count .object : Int) - ps.count .object) = 0 := by
      zify at hps hqs
      linear_combination hps - hqs
    rcases mul_eq_zero.mp hzero with hlength | hcount
    · omega
    · omega

end ReadAs

/-! ## Two passes and one -/

/-- What is read of a part once the verb is filled in, as far as the template goes. -/
def TemplatePart.kept (verb : List Char) : TemplatePart → List TemplatePart
  | .verb => verb.map .char
  | p => [p]

theorem flatMap_kept (verb object : List Char) (ps : List TemplatePart) :
    (ps.flatMap (TemplatePart.kept verb)).flatMap (TemplatePart.filled verbMark.toList object) =
      ps.flatMap (TemplatePart.filled verb object) := by
  induction ps with
  | nil => rfl
  | cons p ps ih =>
    rw [List.flatMap_cons, List.flatMap_append, ih, List.flatMap_cons]
    cases p with
    | verb => exact congrArg (· ++ _) (flatMap_filled_map_char ..)
    | object | char c => simp [TemplatePart.kept, TemplatePart.filled]

theorem count_flatMap_kept (verb : List Char) (ps : List TemplatePart) :
    (ps.flatMap (TemplatePart.kept verb)).count .object = ps.count .object := by
  induction ps with
  | nil => rfl
  | cons p ps ih =>
    rw [List.flatMap_cons]
    cases p with
    | verb => exact (count_map_char_append ..).trans ih
    | object | char c => simp [TemplatePart.kept, ih]

/-- Once the verb is filled in the template is read as what is left of its own parts, but for marks
that are found. -/
theorem readAs_fillOnce (template verb : String) :
    ReadAs ((templateParts template.toList).flatMap (TemplatePart.kept verb.toList))
      (templateParts (fillOnce template verb objectMark).toList) := by
  have hread := readAs_templateParts
    ((templateParts template.toList).flatMap (TemplatePart.kept verb.toList))
  rw [flatMap_kept] at hread
  rwa [fillOnce, String.toList_ofList]

/-- Filling in the verb leads to no further mark for the object where one of the characters of the
mark is missing. -/
theorem objectMarks_fillOnce {template verb : String} (hd : d ∈ objectMark.toList)
    (hverb : d ∉ verb.toList) (htemplate : .char d ∉ templateParts template.toList) :
    objectMarks (fillOnce template verb objectMark) = objectMarks template := by
  have hmissing :
      .char d ∉ (templateParts template.toList).flatMap (TemplatePart.kept verb.toList) := by
    intro hmem
    obtain ⟨p, hp, hkept⟩ := List.mem_flatMap.mp hmem
    cases p with
    | verb =>
      obtain ⟨c, hc, heq⟩ := List.mem_map.mp hkept
      exact hverb (TemplatePart.char.inj heq ▸ hc)
    | object => cases List.mem_singleton.mp hkept
    | char c =>
      rw [List.mem_singleton.mp hkept] at htemplate
      exact htemplate hp
  calc objectMarks (fillOnce template verb objectMark)
      = ((templateParts template.toList).flatMap (TemplatePart.kept verb.toList)).count .object :=
        (readAs_fillOnce template verb).count_eq_of_not_mem hd hmissing
    _ = objectMarks template := count_flatMap_kept ..

/-- Two passes put in the same as one exactly when the same is put in for what the second pass reads
as for what is left of the template. -/
theorem fill_eq_fillOnce_iff_filled {template verb object : String} :
    fill template verb object = fillOnce template verb object ↔
      (templateParts (fillOnce template verb objectMark).toList).flatMap
          (TemplatePart.filled verbMark.toList object.toList) =
        ((templateParts template.toList).flatMap (TemplatePart.kept verb.toList)).flatMap
          (TemplatePart.filled verbMark.toList object.toList) := by
  rw [fill_eq_fillOnce_fillOnce, flatMap_kept, ← String.toList_inj]
  simp only [fillOnce, String.toList_ofList]

/-- **Filling in by two passes and at once.** A message is filled in by two passes, the first for
the verb and the second, over what that gives, for the object. This gives what is filled in at once
exactly when the object is the mark for it, or when there are no more marks for the object once the
verb is filled in than there are in the template. There are none where a character of the mark
stands neither in the verb nor by itself in the template. -/
theorem fill_eq_fillOnce_iff (template verb object : String) :
    fill template verb object =
      fillOnce (fillOnce template verb objectMark) verbMark object ∧
    (fill template verb object = fillOnce template verb object ↔
      object = objectMark ∨
        objectMarks (fillOnce template verb objectMark) = objectMarks template) ∧
    (∀ d ∈ objectMark.toList, d ∉ verb.toList → .char d ∉ templateParts template.toList →
      fill template verb object = fillOnce template verb object) := by
  have hread := readAs_fillOnce template verb
  have hcount := count_flatMap_kept verb.toList (templateParts template.toList)
  have hagree : fill template verb object = fillOnce template verb object ↔
      object = objectMark ∨
        objectMarks (fillOnce template verb objectMark) = objectMarks template := by
    rw [fill_eq_fillOnce_iff_filled, ← String.toList_inj, objectMarks, objectMarks, ← hcount]
    refine ⟨hread.eq_mark_or_count_eq, ?_⟩
    rintro (hmark | hmarks)
    · rw [hmark]
      exact hread.written_eq.symm
    · exact hread.filled_eq hmarks
  exact ⟨fill_eq_fillOnce_fillOnce template verb object, hagree,
    fun d hd hverb htemplate => hagree.mpr (.inr (objectMarks_fillOnce hd hverb htemplate))⟩

/-- With a verb without braces the player is told what cannot be done in so many words, whatever the
name of the object is. -/
theorem fill_cantDo : '\x7b' ∈ objectMark.toList ∧ '\x7b' ∉ "eat".toList ∧
    .char '\x7b' ∉ templateParts ({} : Messages).cantDo.toList ∧
    fill ({} : Messages).cantDo "eat" "\x7bverb\x7d" = "You can't eat the \x7bverb\x7d." := by
  have hmark : '\x7b' ∈ objectMark.toList := by decide
  have hverb : '\x7b' ∉ "eat".toList := by decide
  have htemplate : .char '\x7b' ∉ templateParts ({} : Messages).cantDo.toList := by decide +kernel
  obtain ⟨-, -, hmissing⟩ := fill_eq_fillOnce_iff ({} : Messages).cantDo "eat" "\x7bverb\x7d"
  refine ⟨hmark, hverb, htemplate, ?_⟩
  rw [hmissing '\x7b' hmark hverb htemplate]
  decide +kernel

/-- A verb that is a mark for the object is not told as the player has said it: the object is put
for it as well. -/
theorem fill_echo :
    fill ({} : Messages).cantDo objectMark "lamp" = "You can't lamp the lamp." ∧
    fillOnce ({} : Messages).cantDo objectMark "lamp" = "You can't \x7bobject\x7d the lamp." := by
  decide +kernel

end TextAdventure
