import TextAdventure.Authored.World

/-!
# Ranks

The score as a percentage of the highest one, and the title that it earns: the
first rank of the table that the percentage reaches. The table is kept with the
highest threshold first.
-/

namespace TextAdventure

/-- Puts a rank into a table that is listed lowest first, behind the ranks with
a threshold below its own. -/
def insertRank (rank : Authored.Rank) : List Authored.Rank → List Authored.Rank
  | [] => [rank]
  | lowest :: rest =>
    if lowest.threshold.lt rank.threshold then lowest :: insertRank rank rest
    else rank :: lowest :: rest

/-- The ranks with the highest threshold first. Ranks with equal thresholds stay
in their order. -/
def ranksDescending (ranks : List Authored.Rank) : List Authored.Rank :=
  (ranks.foldl (fun table rank => insertRank rank table) []).reverse

theorem insertRank_perm (rank : Authored.Rank) (table : List Authored.Rank) :
    (insertRank rank table).Perm (rank :: table) := by
  induction table with
  | nil => exact .refl _
  | cons lowest rest ih =>
    unfold insertRank
    split
    · exact (ih.cons lowest).trans (.swap rank lowest rest)
    · exact .refl _

/-- The highest score and what is reached of it, in percent; nothing of nothing
is zero percent. -/
def percentOf (score highest : Nat) : Single :=
  if highest = 0 then .ofNat 0
  else
    let percent := ((Single.ofNat score).div (.ofNat highest)).mul (.ofNat 100)
    if (Single.ofNat 100).lt percent then .ofNat 100 else percent

/-- The rank for a percentage: the first one it reaches, or the last of all. -/
def rankFor (ranks : List Authored.Rank) (percent : Single) : Option Authored.Rank :=
  (ranks.find? fun rank => rank.threshold.le percent).or ranks.getLast?

end TextAdventure
