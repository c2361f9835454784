import Mathlib.Data.List.TakeDrop
import TextAdventure.Proofs.Text.Words
import TextAdventure.Session.Request

/-!
# What is heard of a line

A line that is a command of the game is cut into a verb and the words behind it. No word is lost:
besides articles, only those words are missing that are folded into the verb (`Folds`), such as
`pick up`, or `turn` at the front with `off` at the end. The command can be spelled again as a line
in its normal form, which is heard as the same command (`play_keeps_words`).
-/

namespace TextAdventure

open Text

/-! ## Commands as lines -/

/-- What a command says besides its verb: the object, the preposition and the target. -/
def Command.parts (c : Command) : List String := [c.object, c.preposition, c.target].filterMap id

/-- The words that a command says besides its verb. -/
def Command.said (c : Command) : List String := c.parts.flatMap words

/-- The command as a line. -/
def Command.line (c : Command) : String := Request.phrase (c.verb :: c.parts)

namespace Request

variable {line verb w : String} {ws rest : List String} {c : Command}

/-- The words of a line in small letters, without the articles. -/
def lineWords (line : String) : List String :=
  (words (lower (trim line))).filter (· ∉ articles)

/-- Words that are folded into a verb: `Folds ws verb rest` when the words `ws` are heard as `verb`
and the words `rest`. -/
inductive Folds : List String → String → List String → Prop where
  | look {look place first : String} {others : List String} (hlook : look ∈ ["look", "l"])
      (hplace : place ∈ ["at", "in"]) :
      Folds (look :: place :: first :: others) "examine" (first :: others)
  | pickUp {rest : List String} : Folds ("pick" :: "up" :: rest) "take" rest
  | putDown {put : String} {rest : List String} (hput : put ∈ ["put", "set"]) :
      Folds (put :: "down" :: rest) "drop" rest
  | switch {turn state : String} {rest : List String} (hturn : turn ∈ ["turn", "switch"])
      (hstate : state ∈ ["on", "off"]) : Folds (turn :: state :: rest) ("turn " ++ state) rest
  | switchLast {turn first state : String} {others : List String}
      (hturn : turn ∈ ["turn", "switch"]) (hfirst : first ∉ ["on", "off"])
      (hstate : state ∈ ["on", "off"]) :
      Folds (turn :: first :: (others ++ [state])) ("turn " ++ state) (first :: others)
  | go {go first : String} {others : List String} (hgo : go ∈ ["go", "walk", "run"]) :
      Folds (go :: first :: others) "go" (first :: others)

/-! ## Phrases of words -/

/-- A word as it is heard: in small letters and no article. -/
structure IsHeard (w : String) : Prop where
  word : IsWord w
  small : ∀ c ∈ w.toList, IsSmall c
  no_article : w ∉ articles

theorem isHeard_of_mem_lineWords (h : w ∈ lineWords line) : IsHeard w := by
  obtain ⟨hmem, harticle⟩ := List.mem_filter.mp h
  exact ⟨isWord_of_mem_words hmem, fun c hc => isSmall_of_mem_lower (mem_of_mem_words hmem hc),
    by simpa using harticle⟩

/-- A phrase of words as they are heard is heard as these words. -/
theorem lineWords_phrase (h : ∀ w ∈ ws, IsHeard w) : lineWords (phrase ws) = ws := by
  unfold lineWords phrase
  rw [words_lower_phrase (fun w hw => (h w hw).word) fun w hw => (h w hw).small,
    List.filter_eq_self]
  intro w hw
  simpa using (h w hw).no_article

theorem phrase_append {ws ws' : List String} (h : ws ≠ []) (h' : ws' ≠ []) :
    phrase (ws ++ ws') = phrase ws ++ " " ++ phrase ws' :=
  String.intercalate_append_of_ne_nil h h'

theorem phrase_cons (h : rest ≠ []) : phrase (verb :: rest) = verb ++ " " ++ phrase rest :=
  String.intercalate_cons_of_ne_nil h

theorem phrase_singleton (w : String) : phrase [w] = w := String.intercalate_singleton

/-! ## Commands of words -/

/-- The command says the verb and then the words. -/
structure Spells (c : Command) (verb : String) (rest : List String) : Prop where
  verb_eq : c.verb = verb
  said_eq : c.said = rest
  line_eq : c.line = phrase (verb :: rest)

theorem spells_bare (verb : String) : Spells { verb } verb [] := ⟨rfl, rfl, rfl⟩

theorem spells_object (hne : rest ≠ []) (h : ∀ w ∈ rest, IsWord w) :
    Spells { verb, object := some (phrase rest) } verb rest := by
  refine ⟨rfl, ?_, ?_⟩
  · show [phrase rest].flatMap words = rest
    rw [List.flatMap_singleton]
    exact words_phrase h
  · show phrase [verb, phrase rest] = phrase (verb :: rest)
    rw [phrase_cons hne, phrase_cons (List.cons_ne_nil _ _), phrase_singleton]

theorem spells_target {object target : List String} {preposition : String} (hobject : object ≠ [])
    (htarget : target ≠ []) (h : ∀ w ∈ object ++ preposition :: target, IsWord w) :
    Spells { verb, object := some (phrase object), preposition := some preposition,
             target := some (phrase target) } verb (object ++ preposition :: target) := by
  have hwords : words (phrase object) = object :=
    words_phrase fun w hw => h w (List.mem_append_left _ hw)
  have hwords' : words (phrase target) = target :=
    words_phrase fun w hw => h w (List.mem_append_right _ (List.mem_cons_of_mem _ hw))
  have hpreposition : words preposition = [preposition] := by
    have hphrase : words (phrase [preposition]) = [preposition] := by
      refine words_phrase fun w hw => ?_
      rw [List.mem_singleton.mp hw]
      exact h preposition (List.mem_append_right _ (List.mem_cons_self ..))
    rwa [phrase_singleton] at hphrase
  refine ⟨rfl, ?_, ?_⟩
  · show words (phrase object) ++ (words preposition ++ (words (phrase target) ++ [])) = _
    rw [hwords, hwords', hpreposition, List.append_nil]
    rfl
  · show phrase (verb :: [phrase object, preposition, phrase target]) = _
    have hne : preposition :: target ≠ [] := List.cons_ne_nil _ _
    rw [phrase_cons (List.cons_ne_nil _ _), phrase_cons (List.cons_ne_nil _ _),
      phrase_cons (List.cons_ne_nil _ _), phrase_singleton,
      phrase_cons (List.append_ne_nil_of_right_ne_nil _ hne), phrase_append hobject hne,
      phrase_cons htarget]

/-- Whatever stands between the prepositions, all words are said. -/
theorem spells_command (h : ∀ w ∈ rest, IsWord w) (hplay : command verb rest = .play c) :
    Spells c verb rest := by
  by_cases hne : rest = []
  · subst hne
    have hc : ({ verb } : Command) = c := by simpa [command] using hplay
    exact hc ▸ spells_bare verb
  · have hwhole : Request.play { verb, object := some (phrase rest) } = .play c →
        Spells c verb rest := fun heq => play.inj heq ▸ spells_object hne h
    have hsplit : rest = rest.takeWhile (· ∉ prepositions) ++ rest.dropWhile (· ∉ prepositions) :=
      (List.takeWhile_append_dropWhile ..).symm
    unfold command at hplay
    rw [List.span_eq_takeWhile_dropWhile] at hplay
    simp only [List.isEmpty_iff, hne, if_false] at hplay
    generalize rest.takeWhile (· ∉ prepositions) = object at hplay hsplit
    generalize rest.dropWhile (· ∉ prepositions) = more at hplay hsplit
    cases more with
    | nil => exact hwhole hplay
    | cons preposition target =>
      by_cases hends : object = [] ∨ target = []
      · simp only [Bool.or_eq_true, List.isEmpty_iff, hends, if_true] at hplay
        exact hwhole hplay
      · simp only [Bool.or_eq_true, List.isEmpty_iff, hends, if_false] at hplay
        rw [not_or] at hends
        rw [hsplit] at h ⊢
        exact play.inj hplay ▸ spells_target hends.1 hends.2 h

/-! ## Verbs of several words -/

/-- What is heard when the words are known that are no part of the verb. -/
def heard (verb : String) (rest : List String) : Request :=
  if verb = "go" then .play { verb, object := some (phrase rest) } else command verb rest

theorem ofWords_of_folds (h : Folds ws verb rest) : ofWords ws = heard verb rest := by
  cases h with
  | look hlook hplace =>
    simp only [List.mem_cons, List.not_mem_nil, or_false] at hlook hplace
    rcases hlook with rfl | rfl <;> rcases hplace with rfl | rfl <;> rfl
  | pickUp => rfl
  | putDown hput =>
    simp only [List.mem_cons, List.not_mem_nil, or_false] at hput
    rcases hput with rfl | rfl <;> rfl
  | switch hturn hstate =>
    simp only [List.mem_cons, List.not_mem_nil, or_false] at hturn hstate
    rcases hturn with rfl | rfl <;> rcases hstate with rfl | rfl <;> rfl
  | @switchLast turn first state others hturn hfirst hstate =>
    have hswitch : isSwitch first = false := by
      simpa [isSwitch] using hfirst
    have hstate' : isSwitch state = true := by
      simpa [isSwitch] using hstate
    have hlast : (others ++ [state]).getLast? = some state := List.getLast?_concat ..
    have hother : "turn " ++ state ≠ "go" := by
      simp only [List.mem_cons, List.not_mem_nil, or_false] at hstate
      rcases hstate with rfl | rfl <;> decide
    have hheard : Request.turn turn (first :: (others ++ [state])) =
        command ("turn " ++ state) (first :: others) := by
      simp [Request.turn, hswitch, hlast, hstate']
    rw [heard, if_neg hother, ← hheard]
    simp only [List.mem_cons, List.not_mem_nil, or_false] at hturn
    rcases hturn with rfl | rfl <;> rfl
  | go hgo =>
    simp only [List.mem_cons, List.not_mem_nil, or_false] at hgo
    rcases hgo with rfl | rfl | rfl <;> rfl

theorem isSwitch_iff : isSwitch w = true ↔ w ∈ ["on", "off"] := by
  unfold isSwitch
  simp

theorem turn_of_not_folds (hverb : verb ∈ ["turn", "switch"])
    (hfolds : ∀ verb' rest', ¬Folds (verb :: rest) verb' rest') :
    Request.turn verb rest = command verb rest := by
  cases rest with
  | nil => rfl
  | cons first others =>
    have hfirst : first ∉ ["on", "off"] := fun hstate => hfolds _ _ (.switch hverb hstate)
    have hlast : ∀ last, others.getLast? = some last → last ∉ ["on", "off"] := by
      intro last hlast hstate
      obtain ⟨more, rfl⟩ := List.getLast?_eq_some_iff.mp hlast
      exact hfolds _ _ (.switchLast hverb hfirst hstate)
    rw [← isSwitch_iff] at hfirst
    rw [Request.turn, if_neg hfirst]
    split
    · rename_i last hsome
      rw [if_neg fun hswitch => hlast last hsome (isSwitch_iff.mp hswitch)]
    · rfl

theorem ofVerb_of_not_folds (hfolds : ∀ verb' rest', ¬Folds (verb :: rest) verb' rest') :
    ofVerb verb rest = command verb rest := by
  unfold ofVerb
  split
  case h_1 | h_2 | h_3 | h_4 => exact (hfolds _ _ (.look (by decide) (by decide))).elim
  case h_5 => exact (hfolds _ _ .pickUp).elim
  case h_6 | h_7 => exact (hfolds _ _ (.putDown (by decide))).elim
  case h_8 | h_9 => exact turn_of_not_folds (by decide) hfolds
  case h_10 | h_11 | h_12 => exact (hfolds _ _ (.go (by decide))).elim
  case h_13 => rfl

/-- A line that is a command of the game has a first word. -/
theorem ofVerb_of_play (h : ofWords ws = .play c) :
    ∃ verb rest, ws = verb :: rest ∧ ofVerb verb rest = .play c := by
  unfold ofWords at h
  split at h <;> first | cases h | exact ⟨_, _, rfl, h⟩

/-! ## The normal form -/

theorem Folds.mem (h : Folds ws verb rest) (hw : w ∈ rest) : w ∈ ws := by
  cases h with
  | switchLast => simp only [List.mem_cons, List.mem_append] at hw ⊢; tauto
  | _ => simp_all

/-- A verb as it is spelled. -/
structure Spelled (verb : String) (spelling : List String) : Prop where
  heard_so : lineWords verb = spelling
  phrase_eq : phrase spelling = verb

/-- What is folded into a verb is heard again when the verb is spelled. -/
theorem Folds.exists_spelled (h : Folds ws verb rest) :
    ∃ first others, Spelled verb (first :: others) ∧
      ofWords (first :: others ++ rest) = heard verb rest := by
  cases h with
  | look => exact ⟨"examine", [], ⟨by decide +kernel, by decide⟩, rfl⟩
  | pickUp => exact ⟨"take", [], ⟨by decide +kernel, by decide⟩, rfl⟩
  | putDown => exact ⟨"drop", [], ⟨by decide +kernel, by decide⟩, rfl⟩
  | switch hturn hstate | switchLast hturn hfirst hstate =>
    simp only [List.mem_cons, List.not_mem_nil, or_false] at hstate
    rcases hstate with rfl | rfl
    · exact ⟨"turn", ["on"], ⟨by decide +kernel, by decide⟩, rfl⟩
    · exact ⟨"turn", ["off"], ⟨by decide +kernel, by decide⟩, rfl⟩
  | go => exact ⟨"go", [], ⟨by decide +kernel, by decide⟩, rfl⟩

theorem spells_heard (h : ∀ w ∈ rest, IsWord w) (hne : verb = "go" → rest ≠ [])
    (hplay : heard verb rest = .play c) : Spells c verb rest := by
  unfold heard at hplay
  by_cases hgo : verb = "go"
  · rw [if_pos hgo] at hplay
    exact play.inj hplay ▸ spells_object (hne hgo) h
  · rw [if_neg hgo] at hplay
    exact spells_command h hplay

theorem Folds.ne_nil (h : Folds ws verb rest) : verb = "go" → rest ≠ [] := by
  intro hgo
  cases h with
  | look | go | switchLast => exact List.cons_ne_nil _ _
  | pickUp | putDown => exact absurd hgo (by decide)
  | switch hturn hstate =>
    simp only [List.mem_cons, List.not_mem_nil, or_false] at hstate
    rcases hstate with rfl | rfl <;> exact absurd hgo (by decide)

/-- A command is heard again when the words of its verb are spelled as one text. -/
theorem ofLine_of_spelled {first : String} {others : List String} (hc : Spells c verb rest)
    (hverb : Spelled verb (first :: others)) (hrest : ∀ w ∈ rest, IsHeard w) :
    ofLine c.line = ofWords (first :: others ++ rest) := by
  have hline : c.line = phrase (first :: others ++ rest) := by
    rw [hc.line_eq]
    by_cases hne : rest = []
    · rw [hne, List.append_nil, phrase_singleton, hverb.phrase_eq]
    · rw [phrase_cons hne, phrase_append (List.cons_ne_nil _ _) hne, hverb.phrase_eq]
  have hheard : ∀ w ∈ first :: others ++ rest, IsHeard w := by
    intro w hw
    rcases List.mem_append.mp hw with hw | hw
    · exact isHeard_of_mem_lineWords (hverb.heard_so ▸ hw)
    · exact hrest w hw
  show ofWords (lineWords c.line) = _
  rw [hline, lineWords_phrase hheard]

/-- **No word is lost.** A line that is a command of the game is cut into the words folded into its
verb and the words that the command says, in their order; where nothing can be folded, the verb is
the first word. The command spelled as a line is heard as the same command. -/
theorem play_keeps_words (h : ofLine line = .play c) :
    (Folds (lineWords line) c.verb c.said ∨
      lineWords line = c.verb :: c.said ∧ ∀ verb rest, ¬Folds (lineWords line) verb rest) ∧
    ofLine c.line = .play c := by
  have hplay : ofWords (lineWords line) = .play c := h
  have hheard : ∀ w ∈ lineWords line, IsHeard w := fun w => isHeard_of_mem_lineWords
  by_cases hfolds : ∃ verb rest, Folds (lineWords line) verb rest
  · obtain ⟨verb, rest, hfolds⟩ := hfolds
    have hrest : ∀ w ∈ rest, IsHeard w := fun w hw => hheard w (hfolds.mem hw)
    rw [ofWords_of_folds hfolds] at hplay
    have hc := spells_heard (fun w hw => (hrest w hw).word) hfolds.ne_nil hplay
    obtain ⟨first, others, hverb, hagain⟩ := hfolds.exists_spelled
    refine ⟨.inl ?_, ?_⟩
    · rw [hc.verb_eq, hc.said_eq]
      exact hfolds
    · rw [ofLine_of_spelled hc hverb hrest, hagain, hplay]
  · simp only [not_exists] at hfolds
    obtain ⟨verb, rest, hwords, hverb⟩ := ofVerb_of_play hplay
    rw [hwords] at hheard hfolds hplay ⊢
    have hrest : ∀ w ∈ rest, IsHeard w := fun w hw => hheard w (List.mem_cons_of_mem _ hw)
    rw [ofVerb_of_not_folds hfolds] at hverb
    have hc := spells_command (fun w hw => (hrest w hw).word) hverb
    have hspelled : Spelled verb [verb] := by
      refine ⟨?_, phrase_singleton verb⟩
      have hone : ∀ w ∈ [verb], IsHeard w := fun w hw =>
        hheard w (List.mem_singleton.mp hw ▸ List.mem_cons_self ..)
      have hwords := lineWords_phrase hone
      rwa [phrase_singleton] at hwords
    refine ⟨.inr ⟨?_, hfolds⟩, ?_⟩
    · rw [hc.verb_eq, hc.said_eq]
    · rw [ofLine_of_spelled hc hspelled hrest]
      exact hplay

/-- A line with articles and capitals in which `off` belongs to the verb and `on` does not. -/
def shelfLine : String := "  Turn the Brass lamp on THE shelf off"

/-- The command that is heard of it. -/
def shelfCommand : Command where
  verb := "turn off"
  object := some "brass lamp"
  preposition := some "on"
  target := some "shelf"

example : shelfCommand.line = "turn off brass lamp on shelf" := by decide +kernel

theorem shelf_keeps_words : ofLine shelfLine = .play shelfCommand ∧
    (Folds (lineWords shelfLine) shelfCommand.verb shelfCommand.said ∨
      lineWords shelfLine = shelfCommand.verb :: shelfCommand.said ∧
        ∀ verb rest, ¬Folds (lineWords shelfLine) verb rest) ∧
    ofLine shelfCommand.line = .play shelfCommand := by
  have hplay : ofLine shelfLine = .play shelfCommand := by decide +kernel
  exact ⟨hplay, play_keeps_words hplay⟩

end Request

end TextAdventure
