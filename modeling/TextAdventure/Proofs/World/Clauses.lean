import TextAdventure.Proofs.World.Acceptance

/-!
# Malformed clauses

The check of an authored world goes on to the next clause when one is malformed, while reading a
condition stops there. They take a clause apart each in their own way, and still mean the same ones:

* **clauses** — a clause is reported as malformed once when it cannot be read, and not at all
  otherwise, whatever else is wrong with it (`malformed_clauseFaults`);
* **conditions** — the clauses that are reported as malformed are those that cannot be read by
  themselves, and there is one exactly when the condition cannot be read (`malformed_iff_unread`).
-/

namespace TextAdventure

/-- The fault is that of a malformed clause. -/
def Authored.Fault.isMalformed : Authored.Fault → Bool
  | .malformedCondition _ _ => true
  | .duplicateId _ _ | .missingReference _ _ _ | .invalidValue _ => false

namespace Condition

open Authored

variable {resolve : String → Flag} {known : Known} {context clause : String}

/-! ## Clauses -/

/-- Whatever is wrong with a name, the clause is not reported as malformed for it. -/
theorem malformed_flagFaults (known : Known) (context name : String) :
    (flagFaults known context name).filter Fault.isMalformed = [] := by
  have hmissing : ∀ kind id ids checked,
      (missing kind id ids checked).filter Fault.isMalformed = [] := by
    intro kind id ids checked
    unfold missing
    split <;> rfl
  unfold flagFaults
  dsimp only
  split
  · rfl
  · split
    · exact hmissing ..
    · exact hmissing ..
    · rfl

/-- Terms up to the first that names no flag have the clause reported as malformed once, if there is
such a term. -/
theorem malformed_termFaults (terms : List String) :
    (termFaults known context clause terms).filter Fault.isMalformed =
      if ∀ term ∈ terms, (termName term).isEmpty = false then []
      else [.malformedCondition clause context] := by
  induction terms with
  | nil => rfl
  | cons first rest ih =>
    unfold termFaults
    by_cases hfirst : (termName first).isEmpty = true
    · rw [if_pos hfirst, if_neg fun h => ?_]
      · rfl
      · rw [h first (List.mem_cons_self ..)] at hfirst
        cases hfirst
    · rw [if_neg hfirst, List.filter_append, malformed_flagFaults, List.nil_append, ih]
      simp only [List.forall_mem_cons, Bool.eq_false_iff.mpr hfirst, true_and]

/-- **A clause** is reported as malformed once when it cannot be read, and not at all otherwise. -/
theorem malformed_clauseFaults (resolve : String → Flag) :
    (clauseFaults known context clause).filter Fault.isMalformed =
      if (ofClause resolve clause).isOk then [] else [.malformedCondition clause context] := by
  have hread := isOk_iff.trans (@ofClause_ok_iff resolve clause)
  unfold clauseFaults
  by_cases hblank : (Text.trim clause).isEmpty = true
  · rw [if_pos hblank, if_neg fun h => ?_]
    · rfl
    · rw [(hread.mp h).1] at hblank
      cases hblank
  · rw [if_neg hblank, malformed_termFaults]
    simp only [hread, Bool.eq_false_iff.mpr hblank, true_and]

/-! ## Conditions -/

/-- A clause by itself is read when it is. -/
theorem isOk_ofClauses_singleton :
    (ofClauses resolve [clause]).isOk = (ofClause resolve clause).isOk := by
  rw [Bool.eq_iff_iff, isOk_iff, isOk_iff, ofClauses_ok_iff, List.forall_mem_singleton]

theorem malformed_conditionFaults (resolve : String → Flag) (clauses : Clauses) :
    (conditionFaults known context clauses).filter Fault.isMalformed =
      (clauses.filter fun clause => !(ofClauses resolve [clause]).isOk).map
        (.malformedCondition · context) := by
  induction clauses with
  | nil => rfl
  | cons first rest ih =>
    have hcons : conditionFaults known context (first :: rest) =
        clauseFaults known context first ++ conditionFaults known context rest := rfl
    rw [hcons, List.filter_append, malformed_clauseFaults resolve, ih, List.filter_cons,
      isOk_ofClauses_singleton]
    cases (ofClause resolve first).isOk <;> rfl

/-- **The check and the reader reject the same conditions.** Some clause is reported as malformed
exactly when the condition cannot be read. There is one report for each clause that cannot be read
by itself, in the order of the clauses, and no other. -/
theorem malformed_iff_unread (known : Known) (context : String) (resolve : String → Flag)
    (clauses : Clauses) :
    ((∃ f ∈ conditionFaults known context clauses, f.isMalformed = true) ↔
      ∃ e, ofClauses resolve clauses = .error e) ∧
    (conditionFaults known context clauses).filter Fault.isMalformed =
      (clauses.filter fun clause => !(ofClauses resolve [clause]).isOk).map
        (.malformedCondition · context) := by
  have hreports := @malformed_conditionFaults known context resolve clauses
  have hnone : (∀ f ∈ conditionFaults known context clauses, ¬f.isMalformed = true) ↔
      ∃ c, ofClauses resolve clauses = .ok c := by
    rw [← List.filter_eq_nil_iff, hreports, List.map_eq_nil_iff, List.filter_eq_nil_iff,
      ofClauses_ok_iff]
    refine forall₂_congr fun clause _ => ?_
    rw [isOk_ofClauses_singleton, ← isOk_iff]
    simp
  refine ⟨?_, hreports⟩
  cases hread : ofClauses resolve clauses with
  | ok c =>
    refine iff_of_false ?_ nofun
    rintro ⟨f, hf, hmalformed⟩
    exact hnone.mpr ⟨c, hread⟩ f hf hmalformed
  | error e =>
    refine iff_of_true ?_ ⟨e, rfl⟩
    by_contra hnot
    obtain ⟨c, hc⟩ := hnone.mp fun f hf hmalformed => hnot ⟨f, hf, hmalformed⟩
    cases hread.symm.trans hc

end Condition

end TextAdventure
