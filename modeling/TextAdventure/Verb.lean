import TextAdventure.Flag.Basic
import TextAdventure.Text.Case
import TextAdventure.Text.Blank

/-!
# Verbs

What a player can do to an object. Synonyms are folded, and a word that is none
of the built-in verbs is a verb of its own that an author may give a meaning.
-/

namespace TextAdventure

/-- A verb after folding its synonyms. -/
inductive Verb where
  | take
  | drop
  | put
  | open
  | close
  | lock
  | unlock
  | turnOn
  | turnOff
  | examine
  /-- A verb without a built-in meaning. -/
  | other (word : String)
deriving DecidableEq, Repr, Inhabited

namespace Verb

/-- The words of a verb in small letters, with single spaces between them. -/
def normalize (word : String) : String :=
  " ".intercalate (Text.words (Text.lower (Text.trim word)))

/-- The verb that a normalized word or phrase stands for. -/
def ofNormalized (word : String) : Verb :=
  match word with
  | "take" | "get" | "grab" | "pick up" => take
  | "drop" | "discard" => drop
  | "put" | "place" | "insert" => put
  | "open" => .open
  | "close" | "shut" => close
  | "lock" => lock
  | "unlock" => unlock
  | "turn on" | "turn_on" | "switch on" | "light" | "activate" => turnOn
  | "turn off" | "turn_off" | "switch off" | "extinguish" | "deactivate" => turnOff
  | "examine" | "x" | "inspect" | "look at" | "look" => examine
  | _ => other word

/-- The verb that a word or phrase stands for. -/
def ofText (word : String) : Verb := ofNormalized (normalize word)

/-- The name of the verb in flags. -/
def key : Verb → String
  | take => "take"
  | drop => "drop"
  | put => "put"
  | .open => "open"
  | close => "close"
  | lock => "lock"
  | unlock => "unlock"
  | turnOn => "turn_on"
  | turnOff => "turn_off"
  | examine => "examine"
  | other word => word

/-- The verb in the player's words. -/
def text : Verb → String
  | turnOn => "turn on"
  | turnOff => "turn off"
  | verb => verb.key

def isBuiltin : Verb → Bool
  | other _ => false
  | _ => true

/-- The flag by which the score of this verb on an object is given out once. -/
def scoreGuard (verb : Verb) (object : Id) : Flag := .interactionScored object verb.key

/-! ## Order -/

/-- The place of the verb among the built-in ones. -/
def rank : Verb → Nat
  | take => 0
  | drop => 1
  | put => 2
  | .open => 3
  | close => 4
  | lock => 5
  | unlock => 6
  | turnOn => 7
  | turnOff => 8
  | examine => 9
  | other _ => 10

def ownWord : Verb → String
  | other word => word
  | _ => ""

/-- The built-in verbs in order, then the others by their words. -/
def order : Verb → Verb → Ordering := compareLex (compareOn rank) (compareOn ownWord)

instance : Ord Verb := ⟨order⟩

instance : Std.TransOrd Verb :=
  inferInstanceAs (Std.TransCmp (compareLex (compareOn rank) (compareOn ownWord)))

instance : Std.LawfulEqOrd Verb where
  eq_of_compare {a b} h := by
    have h' : order a b = .eq := h
    simp only [order, compareLex_eq_eq, compareOn, Std.LawfulEqCmp.compare_eq_iff_eq] at h'
    obtain ⟨hr, hw⟩ := h'
    cases a <;> cases b <;> simp_all [rank, ownWord]

end Verb

end TextAdventure
