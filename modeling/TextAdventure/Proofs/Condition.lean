import TextAdventure.Condition
import TextAdventure.Proofs.Outcome

/-!
# What conditions mean

A written condition is read once and then asked of the flags again and again. What it says can be
told from the text alone: every clause has a term that holds, a clause being made of the terms
between its bars (`Text.Pieces`), and a term holds when its flag does, or does not if the term is
negated (`Condition.TermHolds`).

* **reading** fails exactly when something is wrong with a clause, and then with the first wrong
  clause and, in it, the first wrong term;
* **meaning** — otherwise the condition that is read holds exactly when the text says so, in every
  set of flags (`condition_meaning`).
-/

namespace TextAdventure

/-! ## Pieces of a text -/

namespace Text

/-- The text is made of these pieces, with the mark between each two and in none of them. -/
structure Pieces (mark : Char) (s : String) (pieces : List String) : Prop where
  nonempty : pieces ≠ []
  free : ∀ piece ∈ pieces, mark ∉ piece.toList
  joined : (String.singleton mark).intercalate pieces = s

variable {mark : Char} {s : String} {pieces : List String}

theorem splitFrom_eq_splitOnPPrepend (mark : Char) (piece s : List Char) :
    splitFrom mark piece s = s.splitOnPPrepend (· == mark) piece := by
  induction s generalizing piece with
  | nil => rfl
  | cons c rest ih =>
    rw [List.splitOnPPrepend_cons_eq_if]
    unfold splitFrom
    simp only [beq_iff_eq, ih]
    rfl

theorem splitFrom_nil (mark : Char) (s : List Char) : splitFrom mark [] s = s.splitOn mark :=
  splitFrom_eq_splitOnPPrepend mark [] s

/-- The mark is in no piece, provided it is not in the part already read. -/
theorem not_mem_of_mem_splitFrom {piece s p : List Char} (hpiece : mark ∉ piece)
    (h : p ∈ splitFrom mark piece s) : mark ∉ p := by
  induction s generalizing piece with
  | nil =>
    obtain rfl := List.mem_singleton.mp h
    rwa [List.mem_reverse]
  | cons c rest ih =>
    unfold splitFrom at h
    split at h
    · rcases List.mem_cons.mp h with rfl | h
      · rwa [List.mem_reverse]
      · exact ih List.not_mem_nil h
    · rename_i hc
      refine ih (fun hmem => ?_) h
      rcases List.mem_cons.mp hmem with rfl | hmem
      · exact hc rfl
      · exact hpiece hmem

theorem pieces_splitAt (mark : Char) (s : String) : Pieces mark s (splitAt mark s) where
  nonempty := by
    unfold splitAt
    rw [splitFrom_nil, ne_eq, List.map_eq_nil_iff]
    exact List.splitOn_ne_nil mark s.toList
  free piece hpiece := by
    obtain ⟨p, hp, rfl⟩ := List.mem_map.mp hpiece
    rw [String.toList_ofList]
    exact not_mem_of_mem_splitFrom List.not_mem_nil hp
  joined := by
    have hchars : [mark].intercalate (splitFrom mark [] s.toList) = s.toList := by
      rw [splitFrom_nil]
      exact List.intercalate_splitOn mark
    rw [← String.toList_inj, String.toList_intercalate]
    unfold splitAt
    simpa using hchars

/-- **A text has its pieces** in one way only, and cutting it at the mark finds them. -/
theorem pieces_iff : Pieces mark s pieces ↔ splitAt mark s = pieces := by
  constructor
  · intro h
    have hchars : s.toList = [mark].intercalate (pieces.map String.toList) := by
      rw [← h.joined, String.toList_intercalate]
      simp
    unfold splitAt
    rw [splitFrom_nil, hchars, List.splitOn_intercalate mark (by simpa using h.free)
      (by simpa using h.nonempty)]
    simp
  · rintro rfl
    exact pieces_splitAt mark s

/-- A text that begins with `head` is `head` and what follows it. -/
theorem after?_eq_some_iff {head rest : String} : after? head s = some rest ↔ s = head ++ rest := by
  unfold after?
  rw [Option.map_eq_some_iff]
  simp only [dropHead?_eq_some_iff]
  constructor
  · rintro ⟨chars, hchars, rfl⟩
    rw [← String.toList_inj, hchars]
    simp
  · rintro rfl
    exact ⟨rest.toList, by simp, by simp⟩

theorem after?_eq_none_iff {head : String} : after? head s = none ↔ ∀ rest, s ≠ head ++ rest := by
  rw [Option.eq_none_iff_forall_ne_some]
  simp only [ne_eq, after?_eq_some_iff]

end Text

open Text

namespace Condition

variable {resolve : String → Flag} {flags : FlagSet} {clause term : String} {c : Condition}
  {e : ConditionError}

/-! ## What is written -/

/-- A term holds when its flag does, or does not if the term begins with a `!`. Blanks around the
term and after the `!` do not count. -/
inductive TermHolds (resolve : String → Flag) (flags : FlagSet) (term : String) : Prop where
  | negated {rest : String} (written : trim term = "!" ++ rest)
      (absent : flags.has (resolve (trim rest)) = false)
  | plain (written : ∀ rest, trim term ≠ "!" ++ rest)
      (present : flags.has (resolve (trim term)) = true)

/-- What is wrong with a term of a clause: it is blank, or there is nothing but blanks after its
`!`. -/
inductive TermWrong (clause term : String) : ConditionError → Prop where
  | blank (blank : trim term = "") : TermWrong clause term (.emptyTerm clause)
  | nameless {rest : String} (written : trim term = "!" ++ rest) (blank : trim rest = "") :
      TermWrong clause term (.bareNegation clause)

/-- Something is wrong with one of the elements, and this is what is wrong with the first of
them. -/
def FirstWrong {α : Type} (wrong : α → ConditionError → Prop) (xs : List α)
    (e : ConditionError) : Prop :=
  ∃ before x after, xs = before ++ x :: after ∧ (∀ y ∈ before, ∀ e', ¬wrong y e') ∧ wrong x e

/-- What is wrong with a clause: it is blank, or something is wrong with one of its terms. -/
inductive ClauseWrong (clause : String) : ConditionError → Prop where
  | blank (blank : trim clause = "") : ClauseWrong clause .emptyClause
  | term {terms : List String} {e : ConditionError} (notBlank : trim clause ≠ "")
      (pieces : Pieces '|' clause terms) (first : FirstWrong (TermWrong clause) terms e) :
      ClauseWrong clause e

/-- A clause holds when one of its terms does. -/
def ClauseHolds (resolve : String → Flag) (flags : FlagSet) (clause : String) : Prop :=
  ∃ terms, Pieces '|' clause terms ∧ ∃ term ∈ terms, TermHolds resolve flags term

/-! ## Holding -/

theorem allHold_iff {parts : List Condition} :
    holds.allHold flags parts = true ↔ ∀ c ∈ parts, c.holds flags = true := by
  induction parts with
  | nil => simp [holds.allHold]
  | cons c rest ih => simp [holds.allHold, ih]

theorem anyHolds_iff {parts : List Condition} :
    holds.anyHolds flags parts = true ↔ ∃ c ∈ parts, c.holds flags = true := by
  induction parts with
  | nil => simp [holds.anyHolds]
  | cons c rest ih => simp [holds.anyHolds, ih]

/-! ## Reading along a list -/

/-- Reading along a list stops at the first element that cannot be read. -/
theorem mapM_eq_error_iff_firstWrong {α : Type} {read : α → Except ConditionError Condition}
    {wrong : α → ConditionError → Prop} (hread : ∀ x e, read x = .error e ↔ wrong x e)
    {xs : List α} : xs.mapM read = .error e ↔ FirstWrong wrong xs e := by
  rw [mapM_eq_error_iff]
  have hgood : ∀ x, (∃ c, read x = .ok c) ↔ ∀ e, ¬wrong x e := by
    intro x
    simp only [← hread]
    cases read x <;> simp
  simp only [hgood, hread]
  rfl

/-- When something is wrong with an element, something is wrong with a first one. -/
theorem exists_firstWrong {α : Type} {wrong : α → ConditionError → Prop} {xs : List α}
    (h : ∃ x ∈ xs, ∃ e, wrong x e) : ∃ e, FirstWrong wrong xs e := by
  induction xs with
  | nil => simp at h
  | cons first rest ih =>
    by_cases hfirst : ∃ e, wrong first e
    · obtain ⟨e, he⟩ := hfirst
      exact ⟨e, [], first, rest, rfl, nofun, he⟩
    · obtain ⟨x, hx, e, he⟩ := h
      have hx : x ∈ rest := (List.mem_cons.mp hx).resolve_left fun heq => hfirst ⟨e, heq ▸ he⟩
      obtain ⟨e', before, y, after, rfl, hbefore, hy⟩ := ih ⟨x, hx, e, he⟩
      refine ⟨e', first :: before, y, after, rfl, fun z hz => ?_, hy⟩
      rcases List.mem_cons.mp hz with rfl | hz
      · exact fun e' he' => hfirst ⟨e', he'⟩
      · exact hbefore z hz

/-! ## Terms -/

theorem ne_bang_of_blank {rest : String} (h : trim term = "") : trim term ≠ "!" ++ rest := by
  rw [h]
  simp [← String.toList_inj]

/-- **What a term is read as**: a blank one and one with nothing but blanks after its `!` are wrong;
another one is its flag, or the negation of it. -/
theorem ofTerm_cases (resolve : String → Flag) (clause term : String) :
    (trim term = "" ∧ ofTerm resolve clause term = .error (.emptyTerm clause)) ∨
    (∃ rest, trim term = "!" ++ rest ∧ trim rest = "" ∧
      ofTerm resolve clause term = .error (.bareNegation clause)) ∨
    (∃ rest, trim term = "!" ++ rest ∧ trim rest ≠ "" ∧
      ofTerm resolve clause term = .ok (not (atom (resolve (trim rest))))) ∨
    (trim term ≠ "" ∧ (∀ rest, trim term ≠ "!" ++ rest) ∧
      ofTerm resolve clause term = .ok (atom (resolve (trim term)))) := by
  unfold ofTerm
  simp only [String.isEmpty_iff]
  by_cases hblank : trim term = ""
  · exact .inl ⟨hblank, if_pos hblank⟩
  · rw [if_neg hblank]
    cases hafter : after? "!" (trim term) with
    | none => exact .inr (.inr (.inr ⟨hblank, after?_eq_none_iff.mp hafter, rfl⟩))
    | some rest =>
      have hwritten := after?_eq_some_iff.mp hafter
      by_cases hrest : trim rest = ""
      · exact .inr (.inl ⟨rest, hwritten, hrest, if_pos hrest⟩)
      · exact .inr (.inr (.inl ⟨rest, hwritten, hrest, if_neg hrest⟩))

theorem ofTerm_eq_error_iff : ofTerm resolve clause term = .error e ↔ TermWrong clause term e := by
  rcases ofTerm_cases resolve clause term with ⟨hblank, hread⟩ | ⟨rest, hwritten, hrest, hread⟩ |
    ⟨rest, hwritten, hrest, hread⟩ | ⟨hblank, hplain, hread⟩ <;> rw [hread]
  · constructor
    · rintro ⟨⟩
      exact .blank hblank
    · rintro (_ | ⟨hwritten, -⟩)
      · rfl
      · exact absurd hwritten (ne_bang_of_blank hblank)
  · constructor
    · rintro ⟨⟩
      exact .nameless hwritten hrest
    · rintro (hblank | _)
      · exact absurd hwritten (ne_bang_of_blank hblank)
      · rfl
  · refine iff_of_false nofun ?_
    rintro (hblank | ⟨hwritten', hrest'⟩)
    · exact ne_bang_of_blank hblank hwritten
    · rw [hwritten, String.append_right_inj] at hwritten'
      exact hrest (hwritten' ▸ hrest')
  · refine iff_of_false nofun ?_
    rintro (hblank' | ⟨hwritten, -⟩)
    · exact hblank hblank'
    · exact hplain _ hwritten

theorem holds_ofTerm_iff (h : ofTerm resolve clause term = .ok c) :
    c.holds flags = true ↔ TermHolds resolve flags term := by
  rcases ofTerm_cases resolve clause term with ⟨-, hread⟩ | ⟨-, -, -, hread⟩ |
    ⟨rest, hwritten, -, hread⟩ | ⟨-, hplain, hread⟩ <;> rw [hread] at h
  · cases h
  · cases h
  · obtain rfl := Except.ok.inj h
    simp only [holds, Bool.not_eq_true']
    refine ⟨.negated hwritten, ?_⟩
    rintro (⟨hwritten', habsent⟩ | ⟨hplain, -⟩)
    · rw [hwritten, String.append_right_inj] at hwritten'
      exact hwritten' ▸ habsent
    · exact absurd hwritten (hplain rest)
  · obtain rfl := Except.ok.inj h
    refine ⟨.plain hplain, ?_⟩
    rintro (⟨hwritten, -⟩ | ⟨-, hpresent⟩)
    · exact absurd hwritten (hplain _)
    · exact hpresent

/-! ## Clauses -/

theorem ofClause_eq_error_iff : ofClause resolve clause = .error e ↔ ClauseWrong clause e := by
  unfold ofClause
  split
  · rename_i hblank
    rw [String.isEmpty_iff] at hblank
    constructor
    · intro h
      obtain rfl := Except.error.inj h
      exact .blank hblank
    · rintro (_ | ⟨hnot, -, -⟩)
      · rfl
      · exact absurd hblank hnot
  · rename_i hblank
    rw [String.isEmpty_iff] at hblank
    have hterms : (splitAt '|' clause).mapM (ofTerm resolve clause) = .error e ↔
        FirstWrong (TermWrong clause) (splitAt '|' clause) e :=
      mapM_eq_error_iff_firstWrong fun _ _ => ofTerm_eq_error_iff
    rw [bind_eq_error, hterms]
    constructor
    · rintro (hfirst | ⟨parts, -, h⟩)
      · exact .term hblank (pieces_splitAt '|' clause) hfirst
      · -- once its terms are read the clause is
        split at h <;> cases h
    · rintro (hnot | ⟨-, hpieces, hfirst⟩)
      · exact absurd hnot hblank
      · rw [← pieces_iff.mp hpieces] at hfirst
        exact .inl hfirst

/-- A clause of a single term is that term, and of several one of them. -/
theorem ofClause_eq_ok (h : ofClause resolve clause = .ok c) :
    ∃ parts, (splitAt '|' clause).mapM (ofTerm resolve clause) = .ok parts ∧
      (parts = [c] ∨ c = or parts) := by
  unfold ofClause at h
  split at h
  · cases h
  · obtain ⟨parts, hparts, h⟩ := bind_eq_ok.mp h
    refine ⟨parts, hparts, ?_⟩
    split at h
    · exact .inl (congrArg (fun c => [c]) (pure_eq_ok.mp h))
    · exact .inr (pure_eq_ok.mp h).symm

theorem holds_ofClause_iff (h : ofClause resolve clause = .ok c) :
    c.holds flags = true ↔ ClauseHolds resolve flags clause := by
  obtain ⟨parts, hparts, hc⟩ := ofClause_eq_ok h
  have hany : c.holds flags = true ↔ ∃ part ∈ parts, part.holds flags = true := by
    rcases hc with rfl | rfl
    · simp
    · exact anyHolds_iff
  rw [hany]
  constructor
  · rintro ⟨part, hpart, hholds⟩
    obtain ⟨term, hterm, hread⟩ := exists_of_mem_values hparts hpart
    exact ⟨_, pieces_splitAt '|' clause, term, hterm, (holds_ofTerm_iff hread).mp hholds⟩
  · rintro ⟨terms, hpieces, term, hterm, hholds⟩
    rw [← pieces_iff.mp hpieces] at hterm
    obtain ⟨part, hpart, hread⟩ := exists_of_mem_list hparts hterm
    exact ⟨part, hpart, (holds_ofTerm_iff hread).mpr hholds⟩

/-- Something is wrong with a clause when it is blank or one of its terms is blank or names no flag
after its `!`. -/
theorem exists_clauseWrong_iff : (∃ e, ClauseWrong clause e) ↔
    trim clause = "" ∨ ∃ terms, Pieces '|' clause terms ∧ ∃ term ∈ terms,
      trim term = "" ∨ ∃ rest, trim term = "!" ++ rest ∧ trim rest = "" := by
  have hterm : ∀ term, (trim term = "" ∨ ∃ rest, trim term = "!" ++ rest ∧ trim rest = "") ↔
      ∃ e, TermWrong clause term e := by
    intro term
    constructor
    · rintro (hblank | ⟨rest, hwritten, hblank⟩)
      · exact ⟨_, .blank hblank⟩
      · exact ⟨_, .nameless hwritten hblank⟩
    · rintro ⟨e, hblank | ⟨hwritten, hblank⟩⟩
      · exact .inl hblank
      · exact .inr ⟨_, hwritten, hblank⟩
  simp only [hterm]
  constructor
  · rintro ⟨e, hblank | ⟨-, hpieces, before, term, after, rfl, -, hwrong⟩⟩
    · exact .inl hblank
    · exact .inr ⟨_, hpieces, term, by simp, e, hwrong⟩
  · rintro (hblank | ⟨terms, hpieces, term, hmem, e, hwrong⟩)
    · exact ⟨_, .blank hblank⟩
    · by_cases hblank : trim clause = ""
      · exact ⟨_, .blank hblank⟩
      · obtain ⟨e', hfirst⟩ := exists_firstWrong ⟨term, hmem, e, hwrong⟩
        exact ⟨e', .term hblank hpieces hfirst⟩

/-! ## Conditions -/

theorem ofClauses_eq_error_iff {clauses : Authored.Clauses} :
    ofClauses resolve clauses = .error e ↔ FirstWrong ClauseWrong clauses e := by
  unfold ofClauses
  rw [bind_eq_error, mapM_eq_error_iff_firstWrong fun _ _ => ofClause_eq_error_iff, or_iff_left]
  rintro ⟨parts, -, h⟩
  split at h <;> cases h

/-- No clauses ask for nothing, a single clause is itself, and several are all of them. -/
theorem ofClauses_eq_ok {clauses : Authored.Clauses} (h : ofClauses resolve clauses = .ok c) :
    ∃ parts, clauses.mapM (ofClause resolve) = .ok parts ∧
      (parts = [] ∧ c = always ∨ parts = [c] ∨ c = and parts) := by
  unfold ofClauses at h
  obtain ⟨parts, hparts, h⟩ := bind_eq_ok.mp h
  refine ⟨parts, hparts, ?_⟩
  split at h
  · exact .inl ⟨rfl, (pure_eq_ok.mp h).symm⟩
  · exact .inr (.inl (congrArg (fun c => [c]) (pure_eq_ok.mp h)))
  · exact .inr (.inr (pure_eq_ok.mp h).symm)

theorem holds_ofClauses_iff {clauses : Authored.Clauses} (h : ofClauses resolve clauses = .ok c) :
    c.holds flags = true ↔ ∀ clause ∈ clauses, ClauseHolds resolve flags clause := by
  obtain ⟨parts, hparts, hc⟩ := ofClauses_eq_ok h
  have hall : c.holds flags = true ↔ ∀ part ∈ parts, part.holds flags = true := by
    rcases hc with ⟨rfl, rfl⟩ | rfl | rfl
    · simp [holds]
    · simp
    · exact allHold_iff
  rw [hall]
  constructor
  · intro hholds clause hclause
    obtain ⟨part, hpart, hread⟩ := exists_of_mem_list hparts hclause
    exact (holds_ofClause_iff hread).mp (hholds part hpart)
  · intro hholds part hpart
    obtain ⟨clause, hclause, hread⟩ := exists_of_mem_values hparts hpart
    exact (holds_ofClause_iff hread).mpr (hholds clause hclause)

/-- **Conditions mean what is written.** When clauses are read, the condition holds in a set of
flags exactly when every clause has a term that holds there. Reading fails exactly when some clause
is blank, or has a blank term or one with nothing after its `!`; the error is that of the first
such clause and, in it, of the first such term. -/
theorem condition_meaning (resolve : String → Flag) (clauses : Authored.Clauses) :
    (∀ c, ofClauses resolve clauses = .ok c → ∀ flags : FlagSet,
      (c.holds flags = true ↔ ∀ clause ∈ clauses, ∃ terms, Pieces '|' clause terms ∧
        ∃ term ∈ terms, TermHolds resolve flags term)) ∧
    ((∃ e, ofClauses resolve clauses = .error e) ↔ ∃ clause ∈ clauses,
      trim clause = "" ∨ ∃ terms, Pieces '|' clause terms ∧ ∃ term ∈ terms,
        trim term = "" ∨ ∃ rest, trim term = "!" ++ rest ∧ trim rest = "") ∧
    ∀ e, ofClauses resolve clauses = .error e ↔ FirstWrong ClauseWrong clauses e := by
  refine ⟨fun c h flags => holds_ofClauses_iff h, ?_, fun e => ofClauses_eq_error_iff⟩
  simp only [ofClauses_eq_error_iff, ← exists_clauseWrong_iff]
  constructor
  · rintro ⟨e, before, clause, after, rfl, -, hwrong⟩
    exact ⟨clause, by simp, e, hwrong⟩
  · rintro ⟨clause, hclause, e, hwrong⟩
    exact exists_firstWrong ⟨clause, hclause, e, hwrong⟩

/-- A gate opens with a key when it is not rusty or has been oiled. -/
def gate : Authored.Clauses := [" ! rusty |oiled", "key"]

/-- A rusty gate opens once it is oiled; and what is wrong with a list of clauses is what is wrong
with its third one, since a second `!` is part of a name. -/
theorem gate_condition : (∃ c, ofClauses .custom gate = .ok c ∧
      (∀ clause ∈ gate, ∃ terms, Pieces '|' clause terms ∧ ∃ term ∈ terms,
        TermHolds .custom (.ofList [.custom "key", .custom "oiled", .custom "rusty"]) term) ∧
      ¬∀ clause ∈ gate, ∃ terms, Pieces '|' clause terms ∧ ∃ term ∈ terms,
        TermHolds .custom (.ofList [.custom "key", .custom "rusty"]) term) ∧
    FirstWrong ClauseWrong ["key", "!!", "oiled| ! ", " "] (.bareNegation "oiled| ! ") := by
  have hcheck : (match ofClauses .custom gate,
        ofClauses .custom ["key", "!!", "oiled| ! ", " "] with
      | .ok c, .error e => c.holds (.ofList [.custom "key", .custom "oiled", .custom "rusty"]) &&
        !c.holds (.ofList [.custom "key", .custom "rusty"]) &&
        decide (e = .bareNegation "oiled| ! ")
      | _, _ => false) = true := by
    decide +kernel
  split at hcheck
  · rename_i c e hc he
    simp only [Bool.and_eq_true, Bool.not_eq_true', decide_eq_true_iff] at hcheck
    obtain ⟨⟨hopen, hshut⟩, rfl⟩ := hcheck
    obtain ⟨hmeaning, -, -⟩ := condition_meaning .custom gate
    obtain ⟨-, -, hwrong⟩ := condition_meaning .custom ["key", "!!", "oiled| ! ", " "]
    refine ⟨⟨c, hc, (hmeaning c hc _).mp hopen, fun hholds => ?_⟩, (hwrong _).mp he⟩
    rw [(hmeaning c hc _).mpr hholds] at hshut
    cases hshut
  · cases hcheck

end Condition

end TextAdventure
