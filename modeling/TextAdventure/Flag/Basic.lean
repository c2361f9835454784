import TextAdventure.Place

/-!
# Flags

A flag is a single fact about the world: a container is open, a scene has been
visited, a lamp is on, a score has been given out, or anything an author makes
up. A fact holds when its flag is in the set of flags (`Flag.Set`).

Flags are ordered by kind and then by id; the order is linear (`compare` is
lawful), so that a set of flags has one way to be listed.
-/

namespace TextAdventure

/-- A fact that can hold or not. -/
inductive Flag where
  | objectOpen (id : Id)
  | objectLocked (id : Id)
  | objectRevealed (id : Id)
  | sceneVisited (id : Id)
  | lightOn (id : Id)
  | lightDead (id : Id)
  /-- The player can see in the current scene. -/
  | light
  | interactionScored (object : Id) (verb : String)
  | exitScored (id : Id)
  | achievement (id : Id)
  | custom (name : String)
deriving DecidableEq, Repr, Inhabited

namespace Flag

/-- The written form of a flag: `kind:id`, or the bare name. -/
def text : Flag → String
  | objectOpen id => "open:" ++ id
  | objectLocked id => "locked:" ++ id
  | objectRevealed id => "revealed:" ++ id
  | sceneVisited id => "visited:" ++ id
  | lightOn id => "on:" ++ id
  | lightDead id => "dead:" ++ id
  | light => "light"
  | interactionScored object verb => "scored:" ++ object ++ "/" ++ verb
  | exitScored id => "exit-scored:" ++ id
  | achievement id => "achievement:" ++ id
  | custom name => name

/-! ## Order -/

/-- The place of the flag's kind in the order. -/
def kindRank : Flag → Nat
  | objectOpen _ => 0
  | objectLocked _ => 1
  | objectRevealed _ => 2
  | sceneVisited _ => 3
  | lightOn _ => 4
  | lightDead _ => 5
  | light => 6
  | interactionScored _ _ => 7
  | exitScored _ => 8
  | achievement _ => 9
  | custom _ => 10

def subject : Flag → String
  | objectOpen id | objectLocked id | objectRevealed id | sceneVisited id | lightOn id
  | lightDead id | exitScored id | achievement id | custom id => id
  | interactionScored object _ => object
  | light => ""

def scoredVerb : Flag → String
  | interactionScored _ verb => verb
  | _ => ""

/-- By kind, then by subject, then by verb. -/
def order : Flag → Flag → Ordering :=
  compareLex (compareOn kindRank) (compareLex (compareOn subject) (compareOn scoredVerb))

instance : Ord Flag := ⟨order⟩

instance : Std.TransOrd Flag :=
  inferInstanceAs (Std.TransCmp
    (compareLex (compareOn kindRank) (compareLex (compareOn subject) (compareOn scoredVerb))))

/-- Kind, subject and verb tell two flags apart. -/
theorem eq_of_parts {a b : Flag} (hk : a.kindRank = b.kindRank)
    (hs : a.subject = b.subject) (hv : a.scoredVerb = b.scoredVerb) : a = b := by
  cases a <;> cases b <;> simp_all [kindRank, subject, scoredVerb]

instance : Std.LawfulEqOrd Flag where
  eq_of_compare {a b} h := by
    have h' : order a b = .eq := h
    simp only [order, compareLex_eq_eq, compareOn, Std.LawfulEqCmp.compare_eq_iff_eq] at h'
    exact eq_of_parts h'.1 h'.2.1 h'.2.2

end Flag

end TextAdventure
