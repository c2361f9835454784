/-!
# Repetitions in a list

Which elements of a list have occurred before. A list without repetitions is one
without duplicates (`repeated_eq_nil_iff`).
-/

namespace TextAdventure

variable {α : Type} [DecidableEq α]

/-- The elements that are among those seen or occur earlier in the list, once
for each time. -/
def repeatedAfter (seen : List α) : List α → List α
  | [] => []
  | x :: rest =>
    if x ∈ seen then x :: repeatedAfter seen rest else repeatedAfter (x :: seen) rest

/-- The elements of a list that are repetitions of earlier ones. -/
def repeated (xs : List α) : List α := repeatedAfter [] xs

theorem repeatedAfter_eq_nil_iff {seen xs : List α} :
    repeatedAfter seen xs = [] ↔ xs.Nodup ∧ ∀ x ∈ xs, x ∉ seen := by
  induction xs generalizing seen with
  | nil => simp [repeatedAfter]
  | cons x rest ih =>
    by_cases h : x ∈ seen
    · simp [repeatedAfter, h]
    · simp only [repeatedAfter, h, if_false, ih, List.nodup_cons, List.mem_cons, not_or,
        forall_eq_or_imp, not_false_eq_true, true_and]
      constructor
      · intro hr
        exact ⟨⟨fun hx => (hr.2 x hx).1 rfl, hr.1⟩, fun a ha => (hr.2 a ha).2⟩
      · intro hr
        exact ⟨hr.1.2, fun a ha => ⟨fun e => hr.1.1 (e ▸ ha), hr.2 a ha⟩⟩

/-- Nothing is repeated in a list exactly when it has no duplicates. -/
theorem repeated_eq_nil_iff {xs : List α} : repeated xs = [] ↔ xs.Nodup := by
  simp [repeated, repeatedAfter_eq_nil_iff]

end TextAdventure
