import TextAdventure.Proofs.Game.Contents
import TextAdventure.Proofs.Snapshot

/-!
# Accepted snapshots

A snapshot can be written by hand, and need not come from a game. It is accepted exactly when it is
consistent, and then everything is where the snapshot lists it (`restored_iff`): the search for
something inside itself looks at one chain of holders after the other and stops where a chain
repeats itself, yet no loop escapes it and nothing else is taken for one.
-/

namespace TextAdventure.Snapshot

open Std Game

/-- **Accepted snapshots.** Restoring a snapshot goes through exactly when the snapshot fits the
world. Every object is then at the place that lists it, and nowhere when no place does. -/
theorem restored_iff (w : World) (snap : Snapshot) :
    ((∃ s, snap.restore w = .ok s) ↔ snap.Consistent w) ∧
      ∀ s, snap.restore w = .ok s → ∀ o,
        (∀ p, snap.Lists p o → s.locationOf o = p) ∧
        ((∀ p, ¬ snap.Lists p o) → s.locationOf o = .nowhere) := by
  refine ⟨⟨fun ⟨s, hs⟩ => (restore_eq_ok_iff.mp hs).1, Consistent.restore_ok⟩, fun s hs o => ?_⟩
  have hplaced := wellPlaced_restore hs
  constructor
  · intro p hp
    exact hplaced.single.locationOf_eq ((holds_restore hs).mpr hp)
  · intro hnone
    exact GameState.locationOf_eq_nowhere.mpr fun p hp => hnone p ((holds_restore hs).mp hp)

/-- The attic packed anew: the trunk is in the sack, and the box in it has the lamp, which is
listed twice. -/
def repacked : Snapshot :=
  { (default : Snapshot) with
    currentScene := "attic"
    flags := .ofList [("on:lamp", true), ("open:trunk", false), ("secret", true)]
    inventory := ["sack"]
    containers := .ofList [("sack", ["trunk"]), ("trunk", ["box"]), ("box", ["lamp", "lamp"])]
    visited := ["attic"]
    lightUsage := .ofList [("lamp", 3)] }

/-- The attic with the trunk and the box inside one another, and the sack below them. -/
def entangled : Snapshot :=
  { repacked with
    inventory := []
    containers := .ofList [("box", ["trunk"]), ("sack", ["lamp"]), ("trunk", ["box", "sack"])] }

/-- The attic packed anew is accepted, and what is inside itself is not. -/
theorem repacked_restored : ∃ w g, World.compile attic = .ok w ∧ Game.new w {} = .ok g ∧
    (∃ s, repacked.restore g.world = .ok s ∧ repacked.Consistent g.world ∧
      s.locationOf "lamp" = .container "box" ∧ s.locationOf "anvil" = .nowhere) ∧
    ¬ entangled.Consistent g.world := by
  have hcheck : begun attic (fun g =>
      (repacked.restore g.world).isOk && !(entangled.restore g.world).isOk) = true := by
    decide +kernel
  obtain ⟨w, g, hw, hg, hstate⟩ := exists_of_begun hcheck
  rw [Bool.and_eq_true, isOk_iff, Bool.not_eq_true'] at hstate
  obtain ⟨⟨s, hs⟩, hrefused⟩ := hstate
  obtain ⟨hiff, hplaces⟩ := restored_iff g.world repacked
  refine ⟨w, g, hw, hg, ⟨s, hs, hiff.mp ⟨s, hs⟩, (hplaces s hs "lamp").1 _ ?_,
    (hplaces s hs "anvil").2 fun p hp => ?_⟩, fun hconsistent => ?_⟩
  · show "lamp" ∈ repacked.containers.getD "box" []
    decide +kernel
  · have hlists : repacked.containers.toList =
        [("box", ["lamp", "lamp"]), ("sack", ["trunk"]), ("trunk", ["box"])] := by
      decide +kernel
    cases p with
    | nowhere => exact hp
    | inventory => simp [Lists, repacked] at hp
    | container c =>
      obtain ⟨list, hlist, ho⟩ := exists_mem_toList_iff.mpr hp
      rw [hlists] at hlist
      simp only [List.mem_cons, Prod.mk.injEq, List.not_mem_nil, or_false] at hlist
      obtain ⟨-, rfl⟩ | ⟨-, rfl⟩ | ⟨-, rfl⟩ := hlist <;> simp at ho
    | scene c =>
      obtain ⟨list, hlist, -⟩ := exists_mem_toList_iff.mpr hp
      cases hlist
  · rw [isOk_iff.mpr ((restored_iff g.world entangled).1.mpr hconsistent)] at hrefused
    cases hrefused

end TextAdventure.Snapshot
