import TextAdventure.Proofs.Flag.Text
import TextAdventure.Saves.Name

/-!
# Safe names

A name is safe when it consists of small letters, digits and marks between them (`IsSafe`). Whatever
a saved game is called, the name made of it is safe (`isSafe_safeName`), and the safe names are
those that are left as they are (`safeName_eq_self_iff`).

What carries this is that `nameChars` writes nothing in front of the first letter or digit, and from
there on only what can stand in a safe name; the marks at the end are dropped.
-/

namespace TextAdventure.Saves

variable {c : Char} {s rest : List Char} {started skipped : Bool} {name : String}

/-! ## Plain characters -/

/-- A small letter of the narrow alphabet, or a digit. -/
def isPlain (c : Char) : Bool := c.isLower || c.isDigit

theorem isPlain_iff :
    isPlain c = true ↔ 97 ≤ c.toNat ∧ c.toNat ≤ 122 ∨ 48 ≤ c.toNat ∧ c.toNat ≤ 57 := by
  show ((decide ('a'.val ≤ c.val) && decide (c.val ≤ 'z'.val)) ||
    (decide ('0'.val ≤ c.val) && decide (c.val ≤ '9'.val))) = true ↔ _
  simp [UInt32.le_iff_toNat_le]

/-- Besides the plain characters only the capitals are letters or digits. -/
theorem isAlphanum_eq (c : Char) : c.isAlphanum = (c.isUpper || isPlain c) := Bool.or_assoc ..

theorem isAlphanum_of_isPlain (h : isPlain c = true) : c.isAlphanum = true := by
  rw [isAlphanum_eq, h, Bool.or_true]

theorem isPlain_toLower (h : c.isAlphanum = true) : isPlain c.toLower = true := by
  rw [isAlphanum_eq, Bool.or_eq_true] at h
  unfold Char.toLower
  split
  · rename_i hcapital
    simp only [ge_iff_le, UInt32.le_iff_toNat_le, Char.reduceVal, UInt32.reduceToNat] at hcapital
    have hcode : (c.val + 32).toNat = c.val.toNat + 32 := by
      simp only [UInt32.toNat_add, UInt32.reduceToNat]
      omega
    rw [isPlain_iff]
    left
    show 97 ≤ (c.val + 32).toNat ∧ (c.val + 32).toNat ≤ 122
    omega
  · rename_i hcapital
    exact h.resolve_left fun hupper => hcapital (of_decide_eq_true hupper)

theorem toLower_of_isPlain (h : isPlain c = true) : c.toLower = c := by
  rw [isPlain_iff] at h
  unfold Char.toLower
  rw [dif_neg]
  simp only [ge_iff_le, UInt32.le_iff_toNat_le, Char.reduceVal, UInt32.reduceToNat, Char.toNat_val]
  omega

theorem isBlank_of_isPlain (h : isPlain c = true) : Text.isBlank c = false := by
  rw [isPlain_iff] at h
  simp [Text.isBlank]
  omega

theorem isJoint_iff : isJoint c = true ↔ c = '-' ∨ c = '_' := by
  unfold isJoint
  rw [Bool.or_eq_true, beq_iff_eq, beq_iff_eq]

/-- A plain character is no mark. -/
theorem isJoint_of_isPlain (h : isPlain c = true) : isJoint c = false := by
  rw [Bool.eq_false_iff]
  intro hjoint
  rcases isJoint_iff.mp hjoint with rfl | rfl <;> cases h

/-! ## What is kept -/

/-- A character that can stand in a safe name: a plain one or a mark. -/
def isKept (c : Char) : Bool := isPlain c || isJoint c

theorem isPlain_of_isKept (h : isKept c = true) (hjoint : isJoint c = false) :
    isPlain c = true := by
  simpa [isKept, hjoint] using h

/-- Only what can stand in a safe name is written. -/
theorem isKept_of_mem_nameChars (h : c ∈ nameChars started skipped s) : isKept c = true := by
  induction s generalizing started skipped with
  | nil => cases h
  | cons d rest ih =>
    unfold nameChars at h
    split at h
    · rename_i hd
      have hkept : c ∈ d.toLower :: nameChars true false rest → isKept c = true := by
        intro hmem
        rcases List.mem_cons.mp hmem with rfl | hmem
        · unfold isKept
          rw [isPlain_toLower hd, Bool.true_or]
        · exact ih hmem
      simp only at h
      split at h
      · rcases List.mem_cons.mp h with rfl | h
        · decide
        · exact hkept h
      · exact hkept h
    · split at h
      · rename_i hjoint
        rcases List.mem_cons.mp h with rfl | h
        · unfold isKept
          rw [(Bool.and_eq_true_iff.mp hjoint).1, Bool.or_true]
        · exact ih h
      · exact ih h

/-- The first character written is plain. -/
theorem isPlain_of_nameChars_eq_cons (h : nameChars false skipped s = c :: rest) :
    isPlain c = true := by
  induction s generalizing skipped with
  | nil => cases h
  | cons d s ih =>
    unfold nameChars at h
    simp only [Bool.false_and, Bool.and_false, Bool.false_eq_true, if_false] at h
    split at h
    · rename_i hd
      rw [← (List.cons.inj h).1]
      exact isPlain_toLower hd
    · exact ih h

/-- After the first letter or digit, what can stand in a safe name is kept as it is. -/
theorem nameChars_eq_self (h : ∀ c ∈ s, isKept c = true) : nameChars true false s = s := by
  induction s with
  | nil => rfl
  | cons c rest ih =>
    have hrest := ih fun d hd => h d (List.mem_cons_of_mem _ hd)
    unfold nameChars
    by_cases hplain : isPlain c = true
    · rw [if_pos (isAlphanum_of_isPlain hplain), toLower_of_isPlain hplain, hrest]
      rfl
    · have hjoint : isJoint c = true := by
        simpa [isKept, hplain] using h c (List.mem_cons_self ..)
      have hnot : ¬c.isAlphanum = true := by
        rcases isJoint_iff.mp hjoint with rfl | rfl <;> decide
      rw [if_neg hnot, if_pos (by rw [hjoint]; rfl), hrest]

theorem nameChars_cons_of_isPlain (h : isPlain c = true) :
    nameChars false skipped (c :: rest) = c :: nameChars true false rest := by
  rw [nameChars, if_pos (isAlphanum_of_isPlain h), toLower_of_isPlain h]
  rfl

/-! ## The marks at the end -/

/-- No mark stands last once the marks at the end are gone. -/
theorem isJoint_of_getLast?_dropLastJoints (h : (dropLastJoints s).getLast? = some c) :
    isJoint c = false :=
  Text.of_getLast?_rdropWhile h

/-- What is dropped stands at the end. -/
theorem exists_dropped (s : List Char) : ∃ dropped, dropLastJoints s ++ dropped = s :=
  List.rdropWhile_prefix isJoint s

/-- A sequence without a mark at its end is left as it is. -/
theorem dropLastJoints_eq_self (h : ∀ c, s.getLast? = some c → isJoint c = false) :
    dropLastJoints s = s :=
  Text.rdropWhile_eq_self h

/-! ## Safe names -/

/-- The name consists of plain characters and of marks, with plain characters at both ends. -/
structure IsSafe (name : String) : Prop where
  kept : ∀ c ∈ name.toList, isKept c = true
  first : ∃ c, name.toList.head? = some c ∧ isPlain c = true
  last : ∃ c, name.toList.getLast? = some c ∧ isPlain c = true

/-- Whatever is left of the characters written makes a safe name. -/
theorem isSafe_dropLastJoints (h : dropLastJoints (nameChars false false s) ≠ []) :
    IsSafe (String.ofList (dropLastJoints (nameChars false false s))) := by
  obtain ⟨dropped, hwritten⟩ := exists_dropped (nameChars false false s)
  have hkept : ∀ c ∈ dropLastJoints (nameChars false false s), isKept c = true := fun c hc =>
    isKept_of_mem_nameChars (hwritten ▸ List.mem_append_left dropped hc)
  have hend := List.getLast?_eq_some_getLast h
  refine ⟨?_, ?_, ?_⟩
  · rwa [String.toList_ofList]
  · obtain ⟨c, rest, hleft⟩ := List.exists_cons_of_ne_nil h
    rw [hleft, List.cons_append] at hwritten
    rw [String.toList_ofList, hleft]
    exact ⟨c, rfl, isPlain_of_nameChars_eq_cons hwritten.symm⟩
  · rw [String.toList_ofList]
    exact ⟨_, hend, isPlain_of_isKept (hkept _ (List.getLast_mem h))
      (isJoint_of_getLast?_dropLastJoints hend)⟩

/-- **The name made of anything is safe.** -/
theorem isSafe_safeName (raw : String) : IsSafe (safeName raw) := by
  unfold safeName
  simp only
  split
  · exact ⟨List.all_eq_true.mp (by decide), ⟨'w', rfl, by decide⟩, ⟨'d', rfl, by decide⟩⟩
  · rename_i hname
    exact isSafe_dropLastJoints fun hnil => hname (List.isEmpty_iff.mpr hnil)

example : safeName " ../Étage -_ 3! " = "tage-_-3" := by decide +kernel

/-- A safe name is left as it is. -/
theorem safeName_of_isSafe (h : IsSafe name) : safeName name = name := by
  obtain ⟨c, hfirst, hplain⟩ := h.first
  obtain ⟨d, hlast, hplain'⟩ := h.last
  obtain ⟨rest, hchars⟩ := List.head?_eq_some_iff.mp hfirst
  have hclosed : Text.isClosed name = true :=
    Text.isClosed_iff.mpr ⟨d, hlast, isBlank_of_isPlain hplain'⟩
  have htrim : Text.trim name = name :=
    Text.trim_eq_self hchars (isBlank_of_isPlain hplain) hclosed
  have hsame : nameChars false false name.toList = name.toList := by
    have hkept := h.kept
    rw [hchars] at hkept ⊢
    rw [nameChars_cons_of_isPlain hplain,
      nameChars_eq_self fun d hd => hkept d (List.mem_cons_of_mem _ hd)]
  have hdrop : dropLastJoints name.toList = name.toList := by
    refine dropLastJoints_eq_self fun e he => ?_
    rw [hlast] at he
    exact Option.some.inj he ▸ isJoint_of_isPlain hplain'
  have hne : name.toList.isEmpty = false := by rw [hchars]; rfl
  unfold safeName
  simp only
  rw [htrim, hsame, hdrop, hne, if_neg Bool.false_ne_true, String.ofList_toList]

/-- **Safe names** are those that are left as they are. -/
theorem safeName_eq_self_iff : safeName name = name ↔ IsSafe name :=
  ⟨fun h => h ▸ isSafe_safeName name, safeName_of_isSafe⟩

theorem safeName_ne_empty (raw : String) : safeName raw ≠ "" := by
  intro hempty
  obtain ⟨c, hfirst, -⟩ := (isSafe_safeName raw).first
  rw [hempty] at hfirst
  cases hfirst

end TextAdventure.Saves
