import TextAdventure.State.Basic
import TextAdventure.World.Basic

/-!
# Weights

An object weighs what it weighs alone and everything inside it, up to the
largest number that a counter can hold. In a state in which no container is
inside itself the nesting is no deeper than the number of containers, so that
the weight is always found.
-/

namespace TextAdventure.GameState

/-- The weight of an object and its contents, nested at most `depth` deep. -/
def weightWithin (s : GameState) (w : World) : Nat → Id → Except WorldError Nat
  | depth, object => do
    let o ← w.object object
    match depth with
    | 0 =>
      if (s.contentsOf object).isEmpty then return min counterLimit o.weight
      else throw (.endlessNesting object)
    | depth + 1 =>
      (s.contentsOf object).foldlM
        (fun total inner => return addCapped total (← weightWithin s w depth inner))
        (min counterLimit o.weight)

/-- The weight of an object with everything inside it. -/
def totalWeight (s : GameState) (w : World) (object : Id) : Except WorldError Nat :=
  s.weightWithin w s.containers.size object

/-- The weight of everything in a place. -/
def loadOf (s : GameState) (w : World) (holder : Place) : Except WorldError Nat :=
  (s.contentsAt holder).foldlM
    (fun total item => return addCapped total (← s.totalWeight w item)) 0

end TextAdventure.GameState
