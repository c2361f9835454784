import TextAdventure.Proofs.Ron.Values
import TextAdventure.Ron.Source

/-!
# Written values as sources

What written values are seen as: digits as their number (`whole?_toString`), and the fields of a
record as they are (`Node.record?_ofFields`).
-/

namespace TextAdventure.Ron

/-! ## Numbers -/

section Numbers

variable {digits : List Char}

theorem splitSign_of_digits (h : ∀ c ∈ digits, c.isDigit = true) :
    splitSign digits = (false, digits) := by
  unfold splitSign
  split
  · cases h '-' (List.mem_cons_self ..)
  · cases h '+' (List.mem_cons_self ..)
  · rfl

theorem splitBase_of_digits (h : ∀ c ∈ digits, c.isDigit = true) :
    splitBase digits = (10, digits) := by
  have hsecond : ∀ {first second : Char} {rest : List Char}, digits = first :: second :: rest →
      second.isDigit = true := by
    rintro first second rest rfl
    exact h second (List.mem_cons_of_mem _ (List.mem_cons_self ..))
  unfold splitBase
  split
  · cases hsecond rfl
  · cases hsecond rfl
  · cases hsecond rfl
  · rfl

/-- A number that counts is read from its digits. -/
theorem whole?_toString (suffix : String) (n : Nat) :
    whole? suffix (toString n) = some (n : Int) := by
  have hdigits : ∀ c ∈ Nat.toDigits 10 n, c.isDigit = true := fun c => isDigit_of_mem_digits
  have hbar : ∀ c ∈ Nat.toDigits 10 n, (c != '_') = true := by
    intro c hc
    refine bne_iff_ne.mpr ?_
    rintro rfl
    cases hdigits _ hc
  have hspan : (Nat.toDigits 10 n).span isWholePart = (Nat.toDigits 10 n, []) := by
    have hown : ∀ c ∈ Nat.toDigits 10 n, isWholePart c = true := by
      intro c hc
      simp [isWholePart, digitValue?, hdigits c hc]
    have hall : (Nat.toDigits 10 n ++ []).span isWholePart = (Nat.toDigits 10 n, []) :=
      span_append hown fun c hc => by cases hc
    rwa [List.append_nil] at hall
  have hhead : (Nat.toDigits 10 n).head? ≠ some '_' := by
    intro heq
    cases hdigits _ (List.mem_of_head? heq)
  have hmagnitude : magnitude? suffix (Nat.toDigits 10 n) = some n := by
    unfold magnitude?
    simp only [splitBase_of_digits hdigits, hspan, List.filter_eq_self.mpr hbar,
      digitsValue?_toDigits (by decide : 1 < 10) (by decide)]
    simp [hhead]
  unfold whole?
  simp [splitSign_of_digits hdigits, hmagnitude]

end Numbers

/-! ## Records -/

/-- The fields of a record are seen as they are written, if they are asked for and different. -/
theorem Node.record?_ofFields {node : Node} {fields : List (String × Value)} {expected : String}
    {known : List String} (hvalue : node.value = .ofFields fields)
    (hrules : node.rules.explicitNames = false) (hknown : ∀ field ∈ fields, field.1 ∈ known)
    (hdistinct : (fields.map (·.1)).Nodup) :
    node.record? expected known =
      some (fields.map fun (field, v) => (field, node.deeper 2 v)) := by
  have hfields : (fields.map fun (field, v) => (Value.name ⟨field, false⟩, v)).mapM field? =
      some fields :=
    mapM_map_eq_self fun _ _ => rfl
  have hown : fields.filter (fun field => known.contains field.1) = fields :=
    List.filter_eq_self.mpr fun field hfield => List.contains_iff_mem.mpr (hknown field hfield)
  have hothers : fields.filter (not ∘ fun field => known.contains field.1) = [] :=
    List.filter_eq_nil_iff.mpr fun field hfield => by simp [hknown field hfield]
  unfold record?
  rw [hvalue]
  unfold Value.ofFields
  simp only [hfields, Option.bind_eq_bind, Option.bind_some, List.partition_eq_filter_filter]
  have hnamed : node.isNamed expected none = true := by
    simp [isNamed, hrules]
  rw [hown, hothers, hnamed, repeated_eq_nil_iff.mpr hdistinct]
  rfl

end TextAdventure.Ron
