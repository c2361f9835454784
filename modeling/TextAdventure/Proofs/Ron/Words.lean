import Mathlib.Data.List.TakeDrop
import TextAdventure.Ron.Printer

/-!
# Words of written values

How what the printer writes is cut into words again: digits, quoted texts and names each become one
word, as long as what follows does not run on (`cuts_number`, `cuts_quote`, `cuts_name`), and blanks
between them are passed over.
-/

namespace TextAdventure

/-! ## Digits -/

section Digits

variable {base n : Nat}

theorem digitOf?_digitChar (hn : n < base) (hbase : base ≤ 16) :
    digitOf? base n.digitChar = some n := by
  have hall : ∀ n < 16, digitValue? n.digitChar = some n := by decide
  unfold digitOf?
  rw [hall n (by omega), Option.filter_some, if_pos (decide_eq_true hn)]

/-- The digits of a number have its value. -/
theorem digitsValue?_toDigits (hbase : 1 < base) (hsmall : base ≤ 16) (n : Nat) :
    digitsValue? base (Nat.toDigits base n) = some n := by
  unfold digitsValue?
  rw [if_neg (by simp)]
  -- on the number: the last digit is added to the value of those before it
  induction n using Nat.strongRecOn with
  | ind n ih =>
    unfold digitsFrom at *
    rw [Nat.toDigits_eq_if hbase]
    split
    · rename_i hlt
      simp [digitOf?_digitChar hlt hsmall]
    · rename_i hge
      have hpos : 0 < n := by omega
      rw [List.foldlM_append, ih (n / base) (Nat.div_lt_self hpos hbase)]
      simp [digitOf?_digitChar (Nat.mod_lt n (by omega)) hsmall, Nat.div_add_mod']

/-- A sequence that has a value is made of digits. -/
theorem digitOf?_of_digitsFrom {digits : List Char} {start : Nat}
    (h : digitsFrom base start digits = some n) :
    ∀ c ∈ digits, (digitOf? base c).isSome = true := by
  unfold digitsFrom at h
  induction digits generalizing start with
  | nil => exact fun c hc => (List.not_mem_nil hc).elim
  | cons first digits ih =>
    rw [List.foldlM_cons, Option.bind_eq_bind, Option.bind_eq_some_iff] at h
    obtain ⟨next, hfirst, hrest⟩ := h
    intro c hc
    rcases List.mem_cons.mp hc with rfl | hc
    · rw [← Option.isSome_map, hfirst]
      rfl
    · exact ih hrest c hc

theorem isDigit_of_mem_digits {c : Char} (h : c ∈ Nat.toDigits 10 n) : c.isDigit = true :=
  Nat.isDigit_of_mem_toDigits (by decide) (by decide) h

end Digits

namespace Ron

variable {c : Char} {cs own rest : List Char} {words : List Token} {steps : Nat}

/-! ## Characters that belong together -/

/-- The characters that belong together end where the first one does not. -/
theorem span_append {p : Char → Bool} (hown : ∀ c ∈ own, p c = true)
    (hrest : ∀ c, rest.head? = some c → p c = false) : (own ++ rest).span p = (own, rest) := by
  have hstop : rest.takeWhile p = [] ∧ rest.dropWhile p = rest := by
    cases rest with
    | nil => exact ⟨rfl, rfl⟩
    | cons c rest =>
      have hc := hrest c rfl
      simp [hc]
  rw [List.span_eq_takeWhile_dropWhile, List.takeWhile_append_of_pos hown,
    List.dropWhile_append_of_pos hown, hstop.1, hstop.2, List.append_nil]

/-! ## Quoted texts -/

theorem ne_brace_of_mem_toDigits {n : Nat} (h : c ∈ Nat.toDigits 16 n) : c ≠ '\x7d' := by
  have hvalue : digitsValue? 16 (Nat.toDigits 16 n) = some n :=
    digitsValue?_toDigits (by decide) (by decide) n
  unfold digitsValue? at hvalue
  rw [if_neg (by simp)] at hvalue
  rintro rfl
  have hdigit := digitOf?_of_digitsFrom hvalue _ h
  revert hdigit
  decide

/-- The escape of a character that is not shown stands for it. -/
theorem unicodeEscape_toDigits (c : Char) (rest : List Char) :
    unicodeEscape (Nat.toDigits 16 c.toNat ++ '\x7d' :: rest) = some (c, rest) := by
  have hspan : (Nat.toDigits 16 c.toNat ++ '\x7d' :: rest).span (· != '\x7d') =
      (Nat.toDigits 16 c.toNat, '\x7d' :: rest) :=
    span_append (fun d hd => bne_iff_ne.mpr (ne_brace_of_mem_toDigits hd))
      fun d hd => by simp [(Option.some.inj hd).symm]
  have hvalid : c.toNat.isValidChar := c.valid
  have hlength : (Nat.toDigits 16 c.toNat).length ≤ 6 := by
    rw [Nat.length_toDigits_le_iff (by decide) (by decide)]
    rcases hvalid with hlow | ⟨-, hhigh⟩ <;> omega
  unfold unicodeEscape
  rw [hspan]
  dsimp only
  rw [digitsValue?_toDigits (by decide) (by decide), Option.bind_eq_bind, Option.bind_some,
    if_neg (Nat.not_lt.mpr hlength), dif_pos hvalid]
  rfl

theorem quoted_escaped (rule : ByteRule) (steps : Nat) (cs : List Char) :
    quoted rule (steps + 1) ('\\' :: cs) = (escape rule cs).bind fun (c, rest) =>
      (quoted rule steps rest).map fun (text, rest) => (c :: text, rest) := by
  rw [quoted]
  cases escape rule cs with
  | none => rfl
  | some found =>
    obtain ⟨c, rest⟩ := found
    simp only [Option.bind_eq_bind, Option.bind_some]
    cases quoted rule steps rest <;> rfl

theorem quoted_plain (rule : ByteRule) (steps : Nat) (cs : List Char) (hquote : c ≠ '"')
    (hslash : c ≠ '\\') : quoted rule (steps + 1) (c :: cs) =
      (quoted rule steps cs).map fun (text, rest) => (c :: text, rest) := by
  rw [quoted]
  · cases quoted rule steps cs <;> rfl
  · exact hquote
  · exact hslash

/-- A character is read from what is written for it in quotes, in one step. -/
theorem quoted_quotedChar (rule : ByteRule) (steps : Nat) (c : Char) (cs : List Char) :
    quoted rule (steps + 1) (quotedChar c ++ cs) =
      (quoted rule steps cs).map fun (text, rest) => (c :: text, rest) := by
  unfold quotedChar
  split
  case h_8 hquote hslash =>
    split
    · exact quoted_plain rule steps cs hquote hslash
    · simp only [List.cons_append, List.append_assoc, List.nil_append]
      rw [quoted_escaped, escape, unicodeEscape_toDigits, Option.bind_some]
  all_goals
    simp only [List.cons_append, List.nil_append]
    rw [quoted_escaped, escape, Option.bind_some]

/-- A text is read from what is written for it in quotes. -/
theorem quoted_flatMap (rule : ByteRule) {text : List Char} (h : text.length ≤ steps) :
    quoted rule steps (text.flatMap quotedChar ++ '"' :: rest) = some (text, rest) := by
  induction text generalizing steps with
  | nil => cases steps <;> rfl
  | cons c text ih =>
    cases steps with
    | zero => simp at h
    | succ steps =>
      rw [List.flatMap_cons, List.append_assoc, quoted_quotedChar,
        ih (by simpa using h), Option.map_some]

/-! ## Words -/

/-- The characters are cut into the words, in as many steps as there are characters. -/
def Cut (cs : List Char) (words : List Token) : Prop :=
  ∀ steps, cs.length ≤ steps → tokensFrom steps cs = some words

theorem cut_nil : Cut [] [] := by
  intro steps _
  cases steps <;> rfl

theorem Cut.blank (hc : isBlank c = true) (h : Cut rest words) : Cut (c :: rest) words := by
  have hslash : c ≠ '/' := by
    rintro rfl
    cases hc
  intro steps hsteps
  cases steps with
  | zero => simp at hsteps
  | succ steps =>
    rw [tokensFrom, if_pos hc]
    · exact h steps (by simpa using hsteps)
    · exact fun _ heq => (hslash heq).elim
    · exact fun _ heq => (hslash heq).elim

theorem Cut.blanks {blanks : List Char} (hblanks : ∀ c ∈ blanks, isBlank c = true)
    (h : Cut rest words) : Cut (blanks ++ rest) words := by
  induction blanks with
  | nil => exact h
  | cons c blanks ih =>
    exact (ih fun d hd => hblanks d (List.mem_cons_of_mem _ hd)).blank
      (hblanks c (List.mem_cons_self ..))

/-- A word is cut off before the words that follow it. -/
theorem Cut.word {t : Token} (hblank : isBlank c = false) (hslash : c ≠ '/')
    (hlength : rest.length ≤ cs.length)
    (hword : ∀ steps, cs.length ≤ steps → Ron.word steps (c :: cs) = some (t, rest))
    (h : Cut rest words) : Cut (c :: cs) (t :: words) := by
  intro steps hsteps
  cases steps with
  | zero => simp at hsteps
  | succ steps =>
    have hcs : cs.length ≤ steps := by simpa using hsteps
    rw [tokensFrom, if_neg (by rw [hblank]; decide)]
    · rw [hword steps hcs, Option.bind_eq_bind, Option.bind_some]
      simp only [h steps (Nat.le_trans hlength hcs)]
      rfl
    · exact fun _ heq => (hslash heq).elim
    · exact fun _ heq => (hslash heq).elim

/-- Characters after which a word needs a closer look: it could be a quoted text or a raw name. -/
def isLead (c : Char) : Bool := ['"', 'r', 'b', '\''].contains c

/-- Other words are told apart by their first character alone, but for the word that both
parentheses make. -/
theorem word_of_not_lead (steps : Nat) (h : isLead c = false)
    (hunit : c = '(' → rest.head? ≠ some ')') :
    word steps (c :: rest) =
      if isMark c then some (.mark c, rest)
      else if Text.isNameStart c then name (c :: rest)
      else if isNumberStart c then
        some (.number (String.ofList ((c :: rest).takeWhile isNumberPart)),
          (c :: rest).dropWhile isNumberPart)
      else none := by
  unfold isLead at h
  simp only [List.contains_cons, List.contains_nil, Bool.or_false, Bool.or_eq_false_iff,
    beq_eq_false_iff_ne] at h
  obtain ⟨hquote, hraw, hbytes, hsingle⟩ := h
  unfold word
  split <;> simp_all

/-- What follows a value: a comma, a colon, or nothing. -/
def Bounded (rest : List Char) : Prop := ∀ c, rest.head? = some c → c = ',' ∨ c = ':'

/-- The text is cut into the words whatever follows it. -/
def Cuts (s : String) (own : List Token) : Prop :=
  ∀ (rest : List Char) (words : List Token), Bounded rest → Cut rest words →
    Cut (s.toList ++ rest) (own ++ words)

/-- A mark is a word by itself, unless it opens parentheses that are closed at once. -/
theorem Cut.mark (hmark : isMark c = true) (hunit : c = '(' → rest.head? ≠ some ')')
    (h : Cut rest words) : Cut (c :: rest) (.mark c :: words) := by
  have hplain : "()[]\x7b\x7d,:#!".toList.all
      (fun c => !isLead c && !isBlank c && c != '/') = true := by
    decide
  have hc := List.all_eq_true.mp hplain c (List.contains_iff_mem.mp hmark)
  simp only [Bool.and_eq_true, Bool.not_eq_true', bne_iff_ne] at hc
  obtain ⟨⟨hlead, hblank⟩, hslash⟩ := hc
  refine h.word hblank hslash (Nat.le_refl _) fun steps _ => ?_
  rw [word_of_not_lead steps hlead hunit, if_pos hmark]

/-- Neither a number nor a name goes on into what follows it. -/
theorem Bounded.stops (h : Bounded rest) :
    (∀ c, rest.head? = some c → isNumberPart c = false) ∧
      (∀ c, rest.head? = some c → Text.isNamePart c = false) ∧
      rest.head?.any isRawNamePart = false := by
  refine ⟨fun c hc => ?_, fun c hc => ?_, ?_⟩
  · rcases h c hc with rfl | rfl <;> decide
  · rcases h c hc with rfl | rfl <;> decide
  · cases hc : rest.head? with
    | none => rfl
    | some c => rcases h c hc with rfl | rfl <;> decide

theorem isNumberStart_of_isDigit (h : c.isDigit = true) : isLead c = false ∧ isBlank c = false ∧
    c ≠ '/' ∧ c ≠ '(' ∧ isMark c = false ∧ Text.isNameStart c = false ∧
    isNumberStart c = true := by
  have hall : ∀ n < 10, let c := Char.ofNat (48 + n)
      isLead c = false ∧ isBlank c = false ∧ c ≠ '/' ∧ c ≠ '(' ∧ isMark c = false ∧
        Text.isNameStart c = false ∧ isNumberStart c = true := by
    decide
  have hcode : 48 ≤ c.toNat ∧ c.toNat ≤ 57 := by
    unfold Char.isDigit at h
    simpa [UInt32.le_iff_toNat_le] using h
  have hc : Char.ofNat (48 + (c.toNat - 48)) = c := by
    rw [show 48 + (c.toNat - 48) = c.toNat by omega, Char.ofNat_toNat]
  have hfacts := hall (c.toNat - 48) (by omega)
  simp only [hc] at hfacts
  exact hfacts

theorem cuts_number (n : Nat) : Cuts (toString n) [.number (toString n)] := by
  intro rest words hrest h
  have hdigits : (toString n).toList = Nat.toDigits 10 n := by
    simp
  have hpart : ∀ c ∈ Nat.toDigits 10 n, isNumberPart c = true := by
    intro c hc
    simp [isNumberPart, isNumberStart, isDigit_of_mem_digits hc]
  have hspan := span_append hpart hrest.stops.1
  rw [List.span_eq_takeWhile_dropWhile] at hspan
  obtain ⟨htake, hdrop⟩ := Prod.mk.inj hspan
  rw [hdigits]
  cases hn : Nat.toDigits 10 n with
  | nil => exact (Nat.toDigits_ne_nil hn).elim
  | cons c digits =>
    obtain ⟨hlead, hblank, hslash, hunit, hmark, hname, hstart⟩ :=
      isNumberStart_of_isDigit (isDigit_of_mem_digits (hn ▸ List.mem_cons_self ..))
    rw [hn, List.cons_append] at htake hdrop
    have htext : String.ofList (c :: digits) = toString n := by
      rw [← hn, ← hdigits, String.ofList_toList]
    rw [List.cons_append]
    refine h.word hblank hslash (by simp) fun steps _ => ?_
    rw [word_of_not_lead steps hlead fun heq => (hunit heq).elim, hmark, hname, hstart, htake,
      hdrop, htext]
    rfl

theorem length_le_flatMap_quotedChar (text : List Char) :
    text.length ≤ (text.flatMap quotedChar).length := by
  have hone : ∀ c, 1 ≤ (quotedChar c).length := by
    intro c
    unfold quotedChar
    split
    case h_8 => split <;> simp
    all_goals decide
  induction text with
  | nil => exact Nat.zero_le _
  | cons c text ih =>
    have hc := hone c
    rw [List.flatMap_cons, List.length_append, List.length_cons]
    omega

theorem cuts_quote (text : String) : Cuts (quote text) [.text text] := by
  intro rest words _ h
  have hquote : (quote text).toList ++ rest =
      '"' :: (text.toList.flatMap quotedChar ++ '"' :: rest) := by
    simp [quote]
  rw [hquote]
  refine h.word (by decide) (by decide) ?_ fun steps hsteps => ?_
  · rw [List.length_append, List.length_cons]
    omega
  · have hlength : text.toList.length ≤ steps := by
      have hflat := length_le_flatMap_quotedChar text.toList
      rw [List.length_append] at hsteps
      omega
    rw [Ron.word, quoted_flatMap .joined hlength]
    simp [textToken]

/-- A name can begin with the character, and nothing else can. -/
def isPlainStart (c : Char) : Bool :=
  Text.isNameStart c && !isLead c && !isBlank c && !isMark c && c != '/'

/-- A name that is told from other words by its first character. -/
def isPlainName (s : String) : Bool :=
  s.toList.all Text.isNamePart && s.toList.head?.any isPlainStart

theorem cuts_name {s : String} (hs : isPlainName s = true) : Cuts s [.name ⟨s, false⟩] := by
  intro rest words hrest h
  unfold isPlainName at hs
  rw [Bool.and_eq_true, List.all_eq_true] at hs
  obtain ⟨hpart, hstart⟩ := hs
  have hspan := span_append hpart hrest.stops.2.1
  have hname : name (s.toList ++ rest) = some (.name ⟨s, false⟩, rest) := by
    unfold name
    rw [hspan]
    simp [hrest.stops.2.2]
  cases hlist : s.toList with
  | nil =>
    rw [hlist] at hstart
    cases hstart
  | cons c own =>
    rw [hlist] at hstart hname
    simp only [List.head?_cons, Option.any_some, isPlainStart, Bool.and_eq_true,
      Bool.not_eq_true', bne_iff_ne] at hstart
    obtain ⟨⟨⟨⟨hfirst, hlead⟩, hblank⟩, hmark⟩, hslash⟩ := hstart
    have hunit : c ≠ '(' := by
      rintro rfl
      cases hmark
    refine h.word hblank hslash (by simp) fun steps _ => ?_
    rw [word_of_not_lead steps hlead fun heq => (hunit heq).elim, hmark, hfirst]
    exact hname

theorem cuts_pair {key text : String} {own own' : List Token} (hkey : Cuts key own)
    (htext : Cuts text own') : Cuts (key ++ ": " ++ text) (own ++ .mark ':' :: own') := by
  intro rest words hrest h
  have hcolon : ∀ {rest : List Char}, Bounded (':' :: rest) := by
    intro rest c hc
    exact .inr (Option.some.inj hc).symm
  have hsecond := ((htext _ _ hrest h).blank (c := ' ') (by decide)).mark (c := ':') (by decide)
    fun _ => by simp
  simpa using hkey _ _ hcolon hsecond

/-! ## Lines in brackets -/

/-- Parts with a comma after each. -/
def commaed (parts : List (List Token)) : List Token := parts.flatMap (· ++ [.mark ','])

/-- Parts, one a line, are cut into their words. -/
theorem cut_lines {margin : List Char} {parts : List String} {owns : List (List Token)}
    (hmargin : ∀ c ∈ margin, isBlank c = true) (hparts : List.Forall₂ Cuts parts owns)
    (h : Cut rest words) :
    Cut (parts.flatMap (fun part => margin ++ part.toList ++ [',', '\n']) ++ rest)
      (commaed owns ++ words) := by
  induction hparts with
  | nil => exact h
  | @cons part own parts owns hpart _ ih =>
    have hnext := (ih.blank (c := '\n') (by decide)).mark (c := ',') (by decide) fun _ => by simp
    have hcomma : ∀ {rest : List Char}, Bounded (',' :: rest) := by
      intro rest c hc
      exact .inl (Option.some.inj hc).symm
    simpa [commaed] using Cut.blanks hmargin (hpart _ _ hcomma hnext)

/-- What is written in brackets is cut into the words of its parts, with marks around and after
them. -/
theorem cuts_block {first last : Char} {opening closing : String} {level : Nat}
    {parts : List String} {owns : List (List Token)} (hopening : opening.toList = [first])
    (hclosing : closing.toList = [last]) (hfirst : isMark first = true)
    (hlast : isMark last = true) (hopens : last ≠ '(') (hunit : first = '(' → parts ≠ [])
    (hparts : List.Forall₂ Cuts parts owns) :
    Cuts (block opening closing level parts)
      (.mark first :: (commaed owns ++ [.mark last])) := by
  intro rest words _ h
  have hend : Cut (last :: rest) (.mark last :: words) :=
    h.mark hlast fun heq => (hopens heq).elim
  have hblank : ∀ n, ∀ c ∈ List.replicate n ' ', isBlank c = true := by
    intro n c hc
    rw [List.eq_of_mem_replicate hc]
    decide
  unfold block
  split
  · rename_i hnone
    obtain rfl := List.isEmpty_iff.mp hnone
    cases hparts
    rw [String.toList_append, hopening, hclosing]
    exact hend.mark hfirst fun heq => (hunit heq rfl).elim
  · have hlines := cut_lines (hblank (4 * (level + 1))) hparts
      (Cut.blanks (hblank (4 * level)) hend)
    have hfile := (hlines.blank (c := '\n') (by decide)).mark hfirst fun _ => by simp
    simpa [hopening, hclosing, String.toList_join, List.flatMap_map] using hfile

end Ron

end TextAdventure
