import Mathlib.Data.List.Forall2
import TextAdventure.Proofs.Ron.Words

/-!
# Values from the words that are written for them

What is cut from the text of a value is read as the value again (`ReadsBack`): this holds for texts,
whole numbers and names, and for lists, dictionaries and records if it holds for their parts.
-/

namespace TextAdventure.Ron

variable {own own' rest : List Token} {owns : List (List Token)} {v key : Value} {e : Element}
  {steps : Nat}

/-! ## Reading words -/

/-- What follows a value: a comma, a colon, or nothing. -/
def Ends (rest : List Token) : Prop :=
  ∀ t, rest.head? = some t → t = .mark ',' ∨ t = .mark ':'

/-- The words do not begin with a mark that closes brackets, nor with the one for a rule. -/
def Opens (own : List Token) : Prop :=
  ∃ t rest, own = t :: rest ∧ ∀ c ∈ [')', ']', '\x7d', '#'], t ≠ .mark c

/-- The words are read as the value, in so many steps, whatever follows them. -/
structure Makes (own : List Token) (v : Value) : Prop where
  opens : Opens own
  read : ∀ {rest steps}, Ends rest → 4 * own.length < steps →
    value steps (own ++ rest) = some (v, rest)

/-- The words are read as the element, if a comma follows them. -/
structure MakesElement (own : List Token) (e : Element) : Prop where
  opens : Opens own
  read : ∀ {rest steps}, 4 * own.length + 1 < steps →
    element steps (own ++ .mark ',' :: rest) = some (e, .mark ',' :: rest)

theorem Opens.append (h : Opens own) (more : List Token) : Opens (own ++ more) := by
  obtain ⟨t, rest, rfl, hopens⟩ := h
  exact ⟨t, rest ++ more, rfl, hopens⟩

theorem makes_text (text : String) : Makes [.text text] (.text text) where
  opens := ⟨_, [], rfl, by simp⟩
  read {rest steps} _ hsteps := by
    cases steps with
    | zero => omega
    | succ steps => rfl

theorem makes_number (text : String) : Makes [.number text] (.number text) where
  opens := ⟨_, [], rfl, by simp⟩
  read {rest steps} _ hsteps := by
    cases steps with
    | zero => omega
    | succ steps => rfl

/-- A name is a value by itself, if it is none that announces another one. -/
theorem makes_name {n : Name} (hn : n ≠ ⟨"Some", false⟩) : Makes [.name n] (.name n) where
  opens := ⟨_, [], rfl, by simp⟩
  read {rest steps} hends hsteps := by
    cases steps with
    | zero => omega
    | succ steps =>
      have hunit : ∀ more, rest ≠ .unit :: more := by
        rintro more rfl
        rcases hends _ rfl with h | h <;> cases h
      have hleads : ∀ more, rest ≠ .mark '(' :: more := by
        rintro more rfl
        rcases hends _ rfl with h | h <;> cases h
      rw [List.singleton_append, value]
      · exact hunit
      · exact hleads
      · exact hn

theorem Makes.single (h : Makes own v) : MakesElement own (v, none) where
  opens := h.opens
  read {rest steps} hsteps := by
    cases steps with
    | zero => omega
    | succ steps =>
      have hends : Ends (.mark ',' :: rest) := by
        intro t ht
        exact .inl (Option.some.inj ht).symm
      rw [element, h.read hends (by omega)]
      rfl

theorem Makes.pair (hkey : Makes own key) (h : Makes own' v) :
    MakesElement (own ++ .mark ':' :: own') (key, some v) where
  opens := hkey.opens.append _
  read {rest steps} hsteps := by
    cases steps with
    | zero => omega
    | succ steps =>
      rw [List.length_append, List.length_cons] at hsteps
      have hcolon : Ends (.mark ':' :: (own' ++ .mark ',' :: rest)) := by
        intro t ht
        exact .inr (Option.some.inj ht).symm
      have hcomma : Ends (.mark ',' :: rest) := by
        intro t ht
        exact .inl (Option.some.inj ht).symm
      rw [List.append_assoc, List.cons_append, element, hkey.read hcolon (by omega)]
      simp only [Option.bind_eq_bind, Option.bind_some]
      rw [h.read hcomma (by omega)]
      rfl

/-- Elements with a comma after each are read one after the other, up to the closing mark. -/
theorem elementsUntil_commaed {close : Char} {elements : List Element}
    (hclose : close = ')' ∨ close = ']' ∨ close = '\x7d')
    (h : List.Forall₂ MakesElement owns elements) (hsteps : 4 * (commaed owns).length < steps) :
    elementsUntil steps close (commaed owns ++ .mark close :: rest) = some (elements, rest) := by
  induction h generalizing steps with
  | nil =>
    cases steps with
    | zero => omega
    | succ steps => simp [commaed, elementsUntil]
  | @cons own e owns elements hmakes _ ih =>
    cases steps with
    | zero => omega
    | succ steps =>
      have hwords : commaed (own :: owns) ++ .mark close :: rest =
          own ++ .mark ',' :: (commaed owns ++ .mark close :: rest) := by
        simp [commaed]
      have hlength : (commaed (own :: owns)).length = own.length + 1 + (commaed owns).length := by
        simp [commaed]
        omega
      have hopen : (own ++ .mark ',' :: (commaed owns ++ .mark close :: rest)).head? ≠
          some (.mark close) := by
        obtain ⟨t, more, rfl, hopens⟩ := hmakes.opens
        intro heq
        refine hopens close ?_ (Option.some.inj heq)
        rcases hclose with rfl | rfl | rfl <;> decide
      rw [hwords, elementsUntil, if_neg hopen, hmakes.read (by omega)]
      simp only [Option.bind_eq_bind, Option.bind_some]
      rw [ih (by omega)]
      rfl

/-! ## Values in brackets -/

/-- What stands in brackets is read as the elements in it. -/
theorem inside_commaed {close : Char} {elements : List Element}
    {make : List Element → Option Value} (hclose : close = ')' ∨ close = ']' ∨ close = '\x7d')
    (h : List.Forall₂ MakesElement owns elements) (hmake : make elements = some v)
    (hsteps : 4 * (commaed owns).length + 1 < steps) :
    inside steps close make (commaed owns ++ .mark close :: rest) = some (v, rest) := by
  cases steps with
  | zero => omega
  | succ steps =>
    rw [inside, elementsUntil_commaed hclose h (by omega)]
    simp only [Option.bind_eq_bind, Option.bind_some, hmake]
    rfl

/-- Reading back what has been made of values one by one. -/
theorem mapM_map_eq_some {α β γ : Type} {back : β → Option γ} {make : α → β} {out : α → γ}
    {xs : List α} (h : ∀ x ∈ xs, back (make x) = some (out x)) :
    (xs.map make).mapM back = some (xs.map out) := by
  induction xs with
  | nil => rfl
  | cons x xs ih =>
    rw [List.map_cons, List.mapM_cons, h x (List.mem_cons_self ..),
      ih fun y hy => h y (List.mem_cons_of_mem _ hy)]
    rfl

/-- What is read back is what it was made of. -/
theorem mapM_map_eq_self {α β : Type} {back : β → Option α} {make : α → β} {xs : List α}
    (h : ∀ x ∈ xs, back (make x) = some x) : (xs.map make).mapM back = some xs := by
  have hmap : (xs.map make).mapM back = some (xs.map id) := mapM_map_eq_some h
  rw [hmap, List.map_id]

theorem plain_map (items : List Value) : plain (items.map (·, none)) = some items :=
  mapM_map_eq_self fun _ _ => rfl

theorem pairs_map (entries : List (Value × Value)) :
    pairs (entries.map fun entry => (entry.1, some entry.2)) = some entries :=
  mapM_map_eq_self fun _ _ => rfl

/-- Keys with values are no values by themselves. -/
theorem plain_pairs {entries : List (Value × Value)} (hne : entries ≠ []) :
    plain (entries.map fun entry => (entry.1, some entry.2)) = none := by
  cases entries with
  | nil => exact (hne rfl).elim
  | cons entry entries =>
    unfold plain
    rw [List.map_cons, List.mapM_cons]
    rfl

/-- A list is read from the words of its items. -/
theorem makes_list {items : List Value} (h : List.Forall₂ Makes owns items) :
    Makes (.mark '[' :: (commaed owns ++ [.mark ']'])) (.list items) where
  opens := ⟨_, _, rfl, by simp⟩
  read {rest steps} _ hsteps := by
    have helements : List.Forall₂ MakesElement owns (items.map (·, none)) :=
      List.forall₂_map_right_iff.mpr (h.imp fun _ _ => Makes.single)
    cases steps with
    | zero => omega
    | succ steps =>
      rw [List.length_cons, List.length_append] at hsteps
      rw [List.cons_append, List.append_assoc, value]
      refine inside_commaed (.inr (.inl rfl)) helements ?_ (by omega)
      rw [plain_map]
      rfl

/-- The words are those of a key and a value. -/
def MakesPair (own : List Token) (entry : Value × Value) : Prop :=
  ∃ first second, own = first ++ .mark ':' :: second ∧ Makes first entry.1 ∧ Makes second entry.2

theorem makesElement_of_pairs {entries : List (Value × Value)}
    (h : List.Forall₂ MakesPair owns entries) :
    List.Forall₂ MakesElement owns (entries.map fun entry => (entry.1, some entry.2)) := by
  refine List.forall₂_map_right_iff.mpr (h.imp fun own entry hpair => ?_)
  obtain ⟨first, second, rfl, hkey, hvalue⟩ := hpair
  exact hkey.pair hvalue

/-- A dictionary is read from the words of its entries. -/
theorem makes_map {entries : List (Value × Value)} (h : List.Forall₂ MakesPair owns entries) :
    Makes (.mark '\x7b' :: (commaed owns ++ [.mark '\x7d'])) (.map entries) where
  opens := ⟨_, _, rfl, by simp⟩
  read {rest steps} _ hsteps := by
    cases steps with
    | zero => omega
    | succ steps =>
      rw [List.length_cons, List.length_append] at hsteps
      rw [List.cons_append, List.append_assoc, value]
      refine inside_commaed (.inr (.inr rfl)) (makesElement_of_pairs h) ?_ (by omega)
      rw [pairs_map]
      rfl

/-- A record without a name is read from the words of its fields, if it has any. -/
theorem makes_record {fields : List (Value × Value)} (hne : fields ≠ [])
    (h : List.Forall₂ MakesPair owns fields) :
    Makes (.mark '(' :: (commaed owns ++ [.mark ')'])) (.record none fields) where
  opens := ⟨_, _, rfl, by simp⟩
  read {rest steps} _ hsteps := by
    cases steps with
    | zero => omega
    | succ steps =>
      rw [List.length_cons, List.length_append] at hsteps
      rw [List.cons_append, List.append_assoc, value]
      refine inside_commaed (.inl rfl) (makesElement_of_pairs h) ?_ (by omega)
      unfold Value.inParentheses
      rw [plain_pairs hne, pairs_map]
      rfl

/-! ## Values that are read back -/

/-- The text of the value is cut into words that are read as the value, however deep it stands. -/
def Value.ReadsBack (v : Value) : Prop :=
  ∀ level, ∃ own, Cuts (v.render level) own ∧ Makes own v

namespace Value.ReadsBack

theorem text (t : String) : ReadsBack (.text t) :=
  fun _ => ⟨_, by rw [render]; exact cuts_quote t, makes_text t⟩

theorem number (n : Nat) : ReadsBack (.number (toString n)) :=
  fun _ => ⟨_, by rw [render]; exact cuts_number n, makes_number _⟩

theorem name {s : String} (hs : isPlainName s = true) (hsome : s ≠ "Some") :
    ReadsBack (.name ⟨s, false⟩) := by
  refine fun _ => ⟨_, by rw [render]; exact cuts_name hs, makes_name fun heq => ?_⟩
  exact hsome (Name.mk.inj heq).1

theorem exists_owns {items : List Value} (h : ∀ item ∈ items, ReadsBack item) (level : Nat) :
    ∃ owns, List.Forall₂ Cuts (renderAll level items) owns ∧ List.Forall₂ Makes owns items := by
  induction items with
  | nil => exact ⟨[], .nil, .nil⟩
  | cons item items ih =>
    obtain ⟨own, hcuts, hmakes⟩ := h item (List.mem_cons_self ..) level
    obtain ⟨owns, hall, hmade⟩ := ih fun item' hitem => h item' (List.mem_cons_of_mem _ hitem)
    rw [renderAll]
    exact ⟨own :: owns, .cons hcuts hall, .cons hmakes hmade⟩

theorem exists_owns_of_pairs {entries : List (Value × Value)}
    (h : ∀ entry ∈ entries, ReadsBack entry.1 ∧ ReadsBack entry.2) (level : Nat) :
    ∃ owns, List.Forall₂ Cuts (renderPairs level entries) owns ∧
      List.Forall₂ MakesPair owns entries := by
  induction entries with
  | nil => exact ⟨[], .nil, .nil⟩
  | cons entry entries ih =>
    obtain ⟨hkey, hvalue⟩ := h entry (List.mem_cons_self ..)
    obtain ⟨first, hcuts, hmakes⟩ := hkey level
    obtain ⟨second, hcuts', hmakes'⟩ := hvalue level
    obtain ⟨owns, hall, hmade⟩ := ih fun entry' hentry => h entry' (List.mem_cons_of_mem _ hentry)
    rw [renderPairs]
    exact ⟨_ :: owns, .cons (cuts_pair hcuts hcuts') hall,
      .cons ⟨first, second, rfl, hmakes, hmakes'⟩ hmade⟩

theorem list {items : List Value} (h : ∀ item ∈ items, ReadsBack item) :
    ReadsBack (.list items) := by
  intro level
  obtain ⟨owns, hcuts, hmakes⟩ := exists_owns h (level + 1)
  refine ⟨_, ?_, makes_list hmakes⟩
  rw [render]
  exact cuts_block rfl rfl (by decide) (by decide) (by decide) (by simp) hcuts

theorem map {entries : List (Value × Value)}
    (h : ∀ entry ∈ entries, ReadsBack entry.1 ∧ ReadsBack entry.2) : ReadsBack (.map entries) := by
  intro level
  obtain ⟨owns, hcuts, hmakes⟩ := exists_owns_of_pairs h (level + 1)
  refine ⟨_, ?_, makes_map hmakes⟩
  rw [render]
  exact cuts_block rfl rfl (by decide) (by decide) (by decide) (by simp) hcuts

theorem record {fields : List (Value × Value)} (hne : fields ≠ [])
    (h : ∀ field ∈ fields, ReadsBack field.1 ∧ ReadsBack field.2) :
    ReadsBack (.record none fields) := by
  intro level
  obtain ⟨owns, hcuts, hmakes⟩ := exists_owns_of_pairs h (level + 1)
  refine ⟨_, ?_, makes_record hne hmakes⟩
  have hparts : renderPairs (level + 1) fields ≠ [] := by
    intro hnil
    rw [hnil] at hcuts
    cases hcuts
    cases hmakes
    exact hne rfl
  have hleading : leading none = "" := rfl
  rw [render, hleading, String.empty_append]
  exact cuts_block rfl rfl (by decide) (by decide) (by decide) (fun _ => hparts) hcuts

end Value.ReadsBack

/-! ## Files -/

/-- **A value that reads back** is what its file holds, without any rules. -/
theorem Node.ofText?_toText (h : v.ReadsBack) :
    Node.ofText? v.toText = some { rules := {}, value := v } := by
  obtain ⟨own, hcuts, hmakes⟩ := h 0
  have hwords : tokens v.toText = some own := by
    have hcut := hcuts [] [] (fun c hc => by cases hc) cut_nil
    rw [List.append_nil, List.append_nil] at hcut
    exact hcut _ (Nat.le_succ _)
  obtain ⟨t, more, hown, hopens⟩ := hmakes.opens
  have hrules : ∀ steps, rulesFirst steps {} own = some ({}, own) := by
    intro steps
    unfold rulesFirst
    split
    · cases hown
      exact (hopens '#' (by decide) rfl).elim
    · rfl
  have hread : Ron.value (4 * own.length + 1) (own ++ []) = some (v, []) :=
    hmakes.read (fun t ht => by cases ht) (by omega)
  rw [List.append_nil] at hread
  unfold Node.ofText?
  simp only [hwords, hrules, Option.bind_eq_bind, Option.bind_some, hread]
  rfl

end TextAdventure.Ron
