import TextAdventure.Proofs.Condition
import TextAdventure.Proofs.Saves.Name
import TextAdventure.Saves.Path

/-!
# Paths to saved games

A safe name, and the name of a file made of one, is a single step of a path: it has no slash, is not
empty and is none of the steps that stay where they are or lead out of a folder (`IsStep`). So the
path of a saved game, however it is called, leads to what stands under its name directly in its
folder, from wherever the path is followed (`LeadsInto`).
-/

namespace TextAdventure

/-! ## Joined texts -/

namespace Text

variable {mark : Char} {s : String}

/-- A text without the mark is one piece. -/
theorem splitAt_of_not_mem (h : mark ∉ s.toList) : splitAt mark s = [s] :=
  pieces_iff.mp ⟨List.cons_ne_nil _ _, by simpa using h, String.intercalate_singleton⟩

/-- Texts joined by the mark have the pieces of both. -/
theorem splitAt_append (mark : Char) (s t : String) :
    splitAt mark (s ++ String.singleton mark ++ t) = splitAt mark s ++ splitAt mark t := by
  have hchars : (s ++ String.singleton mark ++ t).toList = s.toList ++ mark :: t.toList := by
    simp
  unfold splitAt
  simp only [splitFrom_nil, hchars]
  rw [← List.map_append]
  congr 1
  exact List.splitOnP_append_cons _ _ (beq_self_eq_true mark)

end Text

open Text

namespace Saves

variable {outer : List Entry} {here : Entry} {folder name : String} {c : Char}

/-! ## Single steps -/

/-- The name is a step of a path that leads from a folder to something in it. -/
structure IsStep (name : String) : Prop where
  no_slash : '/' ∉ name.toList
  not_empty : name ≠ ""
  not_here : name ≠ "."
  not_above : name ≠ ".."

/-- A name that begins with a letter or digit and has no slash is a step. -/
theorem isStep_of_isPlain (hfirst : name.toList.head? = some c) (hplain : isPlain c = true)
    (hslash : '/' ∉ name.toList) : IsStep name := by
  refine ⟨hslash, ?_, ?_, ?_⟩ <;> rintro rfl <;> cases hfirst <;> cases hplain

theorem IsSafe.no_slash (h : IsSafe name) : '/' ∉ name.toList := fun hmem =>
  absurd (h.kept _ hmem) (by decide)

theorem IsSafe.isStep (h : IsSafe name) : IsStep name := by
  obtain ⟨c, hfirst, hplain⟩ := h.first
  exact isStep_of_isPlain hfirst hplain h.no_slash

/-- The name of a file is a step: what is added to the safe name of the slot has no slash. -/
theorem isStep_fileName (slot : String) : IsStep (fileName slot) := by
  have hsafe := isSafe_safeName slot
  obtain ⟨c, hfirst, hplain⟩ := hsafe.first
  obtain ⟨rest, hchars⟩ := List.head?_eq_some_iff.mp hfirst
  have hname : (fileName slot).toList =
      (safeName slot).toList ++ (versionMark ++ engineVersion ++ fileEnding).toList := by
    simp [fileName]
  refine isStep_of_isPlain (c := c) ?_ hplain ?_
  · rw [hname, hchars]
    rfl
  · rw [hname, List.mem_append, not_or]
    exact ⟨hsafe.no_slash, by decide⟩

/-! ## Following a path -/

/-- What stands under a name directly in an entry. -/
def Entry.inside? : Entry → String → Option Entry
  | .file .., _ => none
  | .folder inside, name => inside.lookup name

/-- A path leads nowhere, however it goes on, or it goes on where it has led to. -/
theorem follow_append_cases (outer : List Entry) (here : Entry) (steps : List String) :
    (here.follow outer steps = none ∧ ∀ more, here.follow outer (steps ++ more) = none) ∨
      ∃ outer' found, here.follow outer steps = some found ∧
        ∀ more, here.follow outer (steps ++ more) = found.follow outer' more := by
  induction steps generalizing outer here with
  | nil => exact .inr ⟨outer, here, by rw [Entry.follow], fun _ => rfl⟩
  | cons step steps ih =>
    cases here with
    | file content written =>
      left
      simp [Entry.follow]
    | folder inside =>
      simp only [List.cons_append, Entry.follow]
      split
      · exact ih outer (.folder inside)
      · split
        · cases outer with
          | nil => exact .inl ⟨rfl, fun _ => rfl⟩
          | cons around outer => exact ih outer around
        · cases inside.lookup step with
          | none => exact .inl ⟨rfl, fun _ => rfl⟩
          | some found => exact ih (.folder inside :: outer) found

/-- The last step leads to what stands under its name. -/
theorem follow_append_step (h : IsStep name) (steps : List String) :
    here.follow outer (steps ++ [name]) = (here.follow outer steps).bind (·.inside? name) := by
  rcases follow_append_cases outer here steps with ⟨hnone, hmore⟩ | ⟨outer', found, hsome, hmore⟩
  · rw [hmore, hnone]
    rfl
  · rw [hmore, hsome, Option.bind_some]
    cases found with
    | file content written => rfl
    | folder inside =>
      simp [Entry.follow, Entry.inside?, h.not_empty, h.not_here, h.not_above]

/-- An empty step at the end makes no difference for what is looked for in a folder. -/
theorem follow_append_empty (steps : List String) :
    (here.follow outer (steps ++ [""])).bind (·.inside? name) =
      (here.follow outer steps).bind (·.inside? name) := by
  rcases follow_append_cases outer here steps with ⟨hnone, hmore⟩ | ⟨outer', found, hsome, hmore⟩
  · rw [hmore, hnone]
  · rw [hmore, hsome, Option.bind_some]
    cases found with
    | file content written => rfl
    | folder inside => rfl

/-! ## Paths into a folder -/

theorem isAbsolute_of_isStep (h : IsStep name) : isAbsolute name = false := by
  rw [Bool.eq_false_iff]
  intro habsolute
  exact h.no_slash (List.mem_of_head? (beq_iff_eq.mp habsolute))

/-- The steps to something in a folder are those to the folder, up to an empty one at the end, and
its name. -/
theorem pathSteps_inFolder (h : IsStep name) (folder : String) :
    ∃ steps, pathSteps (inFolder folder name) = steps ++ [name] ∧
      (pathSteps folder = steps ∨ pathSteps folder = steps ++ [""]) := by
  have hname : pathSteps name = [name] := splitAt_of_not_mem h.no_slash
  unfold inFolder
  rw [isAbsolute_of_isStep h, if_neg Bool.false_ne_true]
  split
  · rename_i hopen
    rw [Bool.or_eq_true, String.isEmpty_iff, beq_iff_eq] at hopen
    rcases hopen with rfl | hslash
    · exact ⟨[], by rw [String.empty_append, hname, List.nil_append], .inr rfl⟩
    · -- the folder ends in a slash, behind which there is an empty step
      obtain ⟨before, hbefore⟩ := List.getLast?_eq_some_iff.mp hslash
      have hfolder : folder = String.ofList before ++ String.singleton '/' ++ "" := by
        rw [← String.toList_inj, hbefore]
        simp
      refine ⟨pathSteps (String.ofList before), ?_, .inr ?_⟩
      · rw [hfolder, String.append_empty]
        exact (splitAt_append '/' _ name).trans (congrArg _ hname)
      · rw [hfolder]
        exact splitAt_append '/' _ ""
  · exact ⟨pathSteps folder, (splitAt_append '/' folder name).trans (congrArg _ hname), .inl rfl⟩

theorem isAbsolute_inFolder (h : IsStep name) (folder : String) :
    isAbsolute (inFolder folder name) = isAbsolute folder := by
  have hname := isAbsolute_of_isStep h
  unfold inFolder
  rw [hname, if_neg Bool.false_ne_true]
  by_cases hempty : folder = ""
  · rw [hempty, if_pos (by decide), String.empty_append, hname]
    decide
  · have hne : folder.toList ≠ [] := by simpa using hempty
    have hfirst : ∀ rest : String, isAbsolute (folder ++ rest) = isAbsolute folder := by
      intro rest
      unfold isAbsolute
      rw [String.toList_append, List.head?_append_of_ne_nil _ hne]
    split
    · exact hfirst name
    · rw [String.append_assoc]
      exact hfirst _

/-- The path leads to what stands under the name directly in the folder: it is followed from the
same places, and with the same outcome. -/
structure LeadsInto (path folder name : String) : Prop where
  isAbsolute_eq : isAbsolute path = isAbsolute folder
  follow_eq : ∀ (outer : List Entry) (here : Entry), here.follow outer (pathSteps path) =
    (here.follow outer (pathSteps folder)).bind (·.inside? name)

theorem leadsInto_inFolder (h : IsStep name) (folder : String) :
    LeadsInto (inFolder folder name) folder name := by
  refine ⟨isAbsolute_inFolder h folder, fun outer here => ?_⟩
  obtain ⟨steps, hpath, hfolder | hfolder⟩ := pathSteps_inFolder h folder
  · rw [hpath, hfolder, follow_append_step h]
  · rw [hpath, hfolder, follow_append_step h, follow_append_empty]

/-- **Names are made safe.** Whatever something is called, the name made of it is not empty,
consists of small letters, digits and marks with a letter or digit at both ends, and is left as it
is when a name is made of it again. So the folder for the saved games of a world and the file of a
saved game are found directly in the folder they belong to. -/
theorem names_made_safe (raw : String) :
    safeName raw ≠ "" ∧ IsSafe (safeName raw) ∧ safeName (safeName raw) = safeName raw ∧
      (∀ root, LeadsInto (folderFor root raw) root (safeName raw)) ∧
      ∀ folder, LeadsInto (filePath folder raw) folder (fileName raw) := by
  have hsafe := isSafe_safeName raw
  exact ⟨safeName_ne_empty raw, hsafe, safeName_eq_self_iff.mpr hsafe,
    leadsInto_inFolder hsafe.isStep, leadsInto_inFolder (isStep_fileName raw)⟩

end Saves

end TextAdventure
