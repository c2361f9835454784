/-!
# Intervals of characters

A class of characters as a list of closed intervals of their codes.
-/

namespace TextAdventure.Text

/-- Whether a code lies in one of the closed intervals. -/
def inSpans (spans : List (Nat × Nat)) (n : Nat) : Bool :=
  spans.any fun (first, last) => first ≤ n && n ≤ last

end TextAdventure.Text
