import TextAdventure.Proofs.Play.Rewards
import TextAdventure.Proofs.World.Earnings

/-!
# Awards

Points for a merit are given out by an `Award`, and an `Awarded` run is a sequence of awards with
changes of other kinds between them, none of which touches the score or takes back a guard. In a
world that `KeepsGuards` every command is such a run (`awarded_of_carriedOut`). Since the guard of
an award holds from then on, no merit is awarded twice (`Awarded.nodup_merits`), and so the score
cannot become higher than what there is to earn (`Awarded.score_le_highestScore`).
-/

namespace TextAdventure

open Std GameState

/-- No interaction removes a flag by which points are given out once. -/
def World.KeepsGuards (w : World) : Prop :=
  ∀ (id : Id) (o : Object) (verb : Verb) (i : Interaction), w.objects[id]? = some o →
    o.interactions[verb]? = some i → ∀ f ∈ i.removes, f.isGuard = false

instance (w : World) : Decidable w.KeepsGuards :=
  decidable_of_iff (∀ e ∈ w.objects.toList, ∀ i ∈ e.2.interactions.toList, ∀ f ∈ i.2.removes,
      f.isGuard = false)
    ⟨fun h id o verb i ho hi => h (id, o) (ExtTreeMap.mem_toList_iff_getElem?_eq_some.mpr ho)
        (verb, i) (ExtTreeMap.mem_toList_iff_getElem?_eq_some.mpr hi),
      fun h e he i hi => h e.1 e.2 i.1 i.2 (ExtTreeMap.mem_toList_iff_getElem?_eq_some.mp he)
        (ExtTreeMap.mem_toList_iff_getElem?_eq_some.mp hi)⟩

namespace Merit

theorem isGuard_guardFlag (merit : Merit) : merit.guardFlag.isGuard = true := by
  cases merit <;> rfl

theorem guardFlag_ne_achievement (merit : Merit) (id : Id) :
    merit.guardFlag ≠ .achievement id := by
  cases merit <;> exact Flag.noConfusion

end Merit

/-- Points that were given out, with the states before and after that. -/
structure Award where
  before : GameState
  merit : Merit
  points : Int
  after : GameState

variable {w : World} {s t u : GameState} {log log' : List Award}

/-- The score is the same, and every guard that held holds still. -/
structure Unscored (s t : GameState) : Prop where
  score : t.score = s.score
  guards : ∀ f, f.isGuard = true → s.flags.has f = true → t.flags.has f = true

namespace Unscored

theorem rfl : Unscored s s := ⟨Eq.refl _, fun _ _ hf => hf⟩

theorem trans (h : Unscored s t) (h' : Unscored t u) : Unscored s u where
  score := h'.score.trans h.score
  guards f hguard hf := h'.guards f hguard (h.guards f hguard hf)

end Unscored

theorem Unrewarded.unscored (h : Unrewarded w s t) : Unscored s t where
  score := h.score
  guards f hguard hf := (h.guards f hguard).trans hf

/-- The awards, one after the other, account for every difference between the scores of two
states, and no guard is taken back. -/
inductive Awarded (w : World) : GameState → List Award → GameState → Prop where
  | still {s t : GameState} (h : Unscored s t) : Awarded w s [] t
  | award {s t : GameState} {m : Award} {messages : List String} {log : List Award}
      (h : Unscored s m.before) (hoffer : w.Offers m.merit m.points)
      (hm : m.before.awardOnce w m.merit.guardFlag m.points = some (m.after, messages))
      (hrest : Awarded w m.after log t) : Awarded w s (m :: log) t

namespace Awarded

theorem of_unscored (h : Awarded w s log t) (hs : Unscored u s) : Awarded w u log t := by
  cases h with
  | still h => exact .still (hs.trans h)
  | award h hoffer hm hrest => exact .award (hs.trans h) hoffer hm hrest

theorem append (h : Awarded w s log t) (h' : Awarded w t log' u) :
    Awarded w s (log ++ log') u := by
  induction h with
  | still hs => exact h'.of_unscored hs
  | award hs hoffer hm _ ih => exact .award hs hoffer hm (ih h')

theorem single (merit : Merit) {points : Int} {messages : List String}
    (hoffer : w.Offers merit points)
    (h : s.awardOnce w merit.guardFlag points = some (t, messages)) :
    Awarded w s [⟨s, merit, points, t⟩] t :=
  .award .rfl hoffer h (.still .rfl)

/-! ## Every merit once -/

/-- A merit whose guard holds is not awarded any more. -/
theorem guard_not_held (h : Awarded w s log t) :
    ∀ m ∈ log, s.flags.has m.merit.guardFlag = false := by
  induction h with
  | still _ => exact fun m hm => (List.not_mem_nil hm).elim
  | @award s t m messages log hs hoffer hm _ ih =>
    obtain ⟨hfree, -, hhas⟩ := awardOnce_eq_some hm
    intro m' hm'
    -- what does not hold later has not held before
    have hbefore : m.before.flags.has m'.merit.guardFlag = false := by
      rcases List.mem_cons.mp hm' with rfl | hm'
      · exact hfree
      · have hafter := ih m' hm'
        rw [hhas _ m'.merit.guardFlag_ne_achievement, Bool.or_eq_false_iff] at hafter
        exact hafter.2
    by_contra hheld
    rw [hs.guards _ m'.merit.isGuard_guardFlag (Bool.of_not_eq_false hheld)] at hbefore
    cases hbefore

/-- **No merit is awarded twice.** -/
theorem nodup_merits (h : Awarded w s log t) : (log.map (·.merit)).Nodup := by
  induction h with
  | still _ => exact List.nodup_nil
  | @award s t m messages log hs hoffer hm hrest ih =>
    rw [List.map_cons, List.nodup_cons]
    refine ⟨fun hmem => ?_, ih⟩
    obtain ⟨m', hm', heq⟩ := List.mem_map.mp hmem
    -- the guard holds after the award, so the merit is not among the later ones
    have hlater := hrest.guard_not_held m' hm'
    have hheld : m.after.flags.has m.merit.guardFlag = true := by
      obtain ⟨-, -, hhas⟩ := awardOnce_eq_some hm
      rw [hhas _ m.merit.guardFlag_ne_achievement, decide_eq_true rfl, Bool.true_or]
    rw [heq, hheld] at hlater
    cases hlater

theorem offers (h : Awarded w s log t) : ∀ m ∈ log, w.Offers m.merit m.points := by
  induction h with
  | still _ => exact fun m hm => (List.not_mem_nil hm).elim
  | award _ hoffer _ _ ih =>
    intro m hm
    rcases List.mem_cons.mp hm with rfl | hm
    · exact hoffer
    · exact ih m hm

/-! ## The score -/

/-- The score is changed by the awards only. -/
theorem score_eq (h : Awarded w s log t) :
    t.score = log.foldl (fun score m => adjust score m.points) s.score := by
  induction h with
  | still hs => exact hs.score
  | award hs _ hm _ ih =>
    obtain ⟨-, hscore, -⟩ := awardOnce_eq_some hm
    rw [ih, List.foldl_cons, hscore, hs.score]

theorem adjust_le (score : Nat) (points : Int) : adjust score points ≤ score + points.toNat := by
  unfold adjust
  omega

theorem adjust_le_counterLimit (score : Nat) (points : Int) : adjust score points ≤ counterLimit :=
  Nat.min_le_left ..

/-- What is taken away counts for nothing, so that the points given out bound the score. -/
theorem foldl_adjust_le {score : Nat} :
    log.foldl (fun score m => adjust score m.points) score
      ≤ score + (log.map fun m => m.points.toNat).sum := by
  induction log generalizing score with
  | nil => simp
  | cons m rest ih =>
    rw [List.foldl_cons, List.map_cons, List.sum_cons]
    have hfirst := adjust_le score m.points
    have hrest := @ih (adjust score m.points)
    omega

theorem foldl_adjust_le_counterLimit {score : Nat} (h : score ≤ counterLimit) :
    log.foldl (fun score m => adjust score m.points) score ≤ counterLimit := by
  induction log generalizing score with
  | nil => exact h
  | cons m rest ih => exact ih (adjust_le_counterLimit score m.points)

/-- **The score is never higher than the highest score**, from nothing. -/
theorem score_le_highestScore (h : Awarded w s log t) (hs : s.score = 0) :
    t.score ≤ highestScore w.scenes w.objects := by
  have hearned : (log.map fun m => m.points.toNat).sum ≤ (w.earnings.map (·.2)).sum :=
    World.sum_points_le h.nodup_merits h.offers
  have hsum := @foldl_adjust_le log s.score
  have hlimit := @foldl_adjust_le_counterLimit log s.score (by rw [hs]; exact Nat.zero_le _)
  rw [← h.score_eq] at hsum hlimit
  rw [World.highestScore_eq]
  exact Nat.le_min.mpr ⟨hlimit, by omega⟩

end Awarded

/-! ## Commands -/

/-- The rewarded step of a command makes one award at most. -/
theorem Rewards.awarded (hkeeps : w.KeepsGuards) {trophies : List String}
    (h : Rewards w s trophies t) : ∃ log, Awarded w s log t := by
  cases h with
  | nothing => exact ⟨[], .still .rfl⟩
  | @arrival here sc e messages _ hscene hexit h =>
    exact ⟨_, .single (.arrival e.destination) ⟨here, sc, hscene, e, hexit, rfl, rfl⟩ h⟩
  | @marks a i trophies _ hobject hentry h =>
    obtain ⟨u, hreveal, hmarked⟩ := Action.applyMarks_eq_ok h
    obtain ⟨hscore, hkept, -⟩ := Action.reveal_eq_ok hreveal
    have hafter : Unscored u t := ⟨hscore, fun f _ hf => hkept f hf⟩
    have hbefore : Unscored s { s with flags := i.marked s.flags } := by
      refine ⟨rfl, fun f hguard hf => ?_⟩
      have hmem : f ∉ i.removes := by
        intro hmem
        rw [hkeeps _ _ _ _ hobject hentry f hmem] at hguard
        cases hguard
      show (i.marked s.flags).has f = true
      rw [Interaction.has_marked, decide_eq_false hmem, hf, Bool.or_true]
      rfl
    rcases hmarked with ⟨rfl, -⟩ | ⟨-, haward⟩
    · exact ⟨[], .still (hbefore.trans hafter)⟩
    · have hmade := Awarded.single (.interaction a.object.id a.verb)
        ⟨a.object, i, hobject, hentry, rfl⟩ haward
      exact ⟨_, (hmade.of_unscored hbefore).append (.still hafter)⟩

/-- **A command that takes a turn** is a run of awards. -/
theorem awarded_of_carriedOut (hw : w.Coherent) (hkeeps : w.KeepsGuards) {messages : Messages}
    {command : Command} (h : CarriedOut w messages s command t) : ∃ log, Awarded w s log t := by
  obtain ⟨u, v, _, hbefore, hrewards, hafter⟩ := stages_of_carriedOut hw h
  obtain ⟨log, hlog⟩ := hrewards.awarded hkeeps
  exact ⟨_, (hlog.of_unscored hbefore.unscored).append (.still hafter.unscored)⟩

end TextAdventure
