import Std.Data.ExtTreeSet
import TextAdventure.Flag.Basic

/-!
# Sets of flags

The flags that hold. A flag that is not in the set does not hold.
-/

namespace TextAdventure

/-- The flags that hold. -/
structure FlagSet where
  flags : Std.ExtTreeSet Flag
deriving DecidableEq

namespace FlagSet

def empty : FlagSet := ⟨∅⟩

instance : Inhabited FlagSet := ⟨empty⟩

def has (s : FlagSet) (f : Flag) : Bool := s.flags.contains f

/-- The set in which the flag holds as well. -/
def insert (s : FlagSet) (f : Flag) : FlagSet := ⟨s.flags.insert f⟩

def erase (s : FlagSet) (f : Flag) : FlagSet := ⟨s.flags.erase f⟩

/-- Makes a flag hold; tells whether it did not hold before. -/
def set (s : FlagSet) (f : Flag) : Bool × FlagSet := (!s.has f, s.insert f)

/-- Makes a flag not hold; tells whether it held before. -/
def clear (s : FlagSet) (f : Flag) : Bool × FlagSet := (s.has f, s.erase f)

/-- Makes a flag hold or not. -/
def assign (s : FlagSet) (f : Flag) (value : Bool) : FlagSet :=
  if value then s.insert f else s.erase f

def toList (s : FlagSet) : List Flag := s.flags.toList

/-- The number of flags that hold. -/
def size (s : FlagSet) : Nat := s.flags.size

def isEmpty (s : FlagSet) : Bool := s.flags.isEmpty

/-- The set of the flags in a list. -/
def ofList (fs : List Flag) : FlagSet := fs.foldl insert empty

theorem ext {s t : FlagSet} (h : ∀ f, s.has f = t.has f) : s = t := by
  cases s; cases t
  simp only [FlagSet.mk.injEq]
  apply Std.ExtTreeSet.ext_contains
  intro f
  exact h f

@[simp] theorem has_empty (f : Flag) : empty.has f = false := by simp [empty, has]

@[simp] theorem has_insert (s : FlagSet) (f g : Flag) :
    (s.insert f).has g = (f = g || s.has g) := by
  simp only [has, insert, Std.ExtTreeSet.contains_insert]
  by_cases h : f = g
  · simp [h]
  · have : ¬ compare f g = .eq := fun e => h (Std.LawfulEqOrd.eq_of_compare e)
    simp [h, this]

@[simp] theorem has_erase (s : FlagSet) (f g : Flag) :
    (s.erase f).has g = (!decide (f = g) && s.has g) := by
  simp only [has, erase, Std.ExtTreeSet.contains_erase]
  by_cases h : f = g
  · simp [h]
  · have : ¬ compare f g = .eq := fun e => h (Std.LawfulEqOrd.eq_of_compare e)
    simp [h, this]

@[simp] theorem has_assign (s : FlagSet) (f g : Flag) (value : Bool) :
    (s.assign f value).has g = if f = g then value else s.has g := by
  cases value <;> by_cases h : f = g <;> simp [assign, h]

/-- A flag holds after others are added if it held before or is one of them. -/
theorem has_foldl_insert {granted : List Flag} {flags : FlagSet} {f : Flag} :
    (granted.foldl .insert flags).has f = (decide (f ∈ granted) || flags.has f) := by
  induction granted generalizing flags with
  | nil => simp
  | cons g rest ih =>
    rw [List.foldl_cons, ih, has_insert]
    by_cases h : f = g
    · simp [h]
    · simp [h, Ne.symm h]

/-- A flag holds after others are taken away if it held before and is none of them. -/
theorem has_foldl_erase {removed : List Flag} {flags : FlagSet} {f : Flag} :
    (removed.foldl .erase flags).has f = (!decide (f ∈ removed) && flags.has f) := by
  induction removed generalizing flags with
  | nil => simp
  | cons g rest ih =>
    rw [List.foldl_cons, ih, has_erase]
    by_cases h : f = g
    · simp [h]
    · simp [h, Ne.symm h]

@[simp] theorem mem_toList (s : FlagSet) (f : Flag) : f ∈ s.toList ↔ s.has f = true := by
  simp [toList, has, Std.ExtTreeSet.mem_toList]

end FlagSet

end TextAdventure
