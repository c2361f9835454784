import TextAdventure.Proofs.Play.Silence

/-!
# Trophies

A trophy is granted when the score reaches its threshold, and is kept when the score falls again.
In a world that is silent about trophies only the rewarded step of a command grants any: those that
hold after it are those that held before and those whose threshold the score has reached, and it
announces the new ones in the order in which they are written (`Granted`). This needs a state that
is `Decorated`, in which every trophy whose threshold is reached is held already, and it leaves one.
-/

namespace TextAdventure

open Std GameState FlagSet

/-- Flags for trophies. -/
def Flag.isTrophy : Flag → Bool
  | .achievement _ => true
  | _ => false

namespace World

/-- Trophies have different ids, and none of them is granted for nothing. -/
structure TrophyRules (w : World) : Prop where
  distinct : (w.scoring.achievements.map (·.id)).Nodup
  positive : ∀ a ∈ w.scoring.achievements, a.threshold ≠ 0

/-- The trophies that are held in the second state but not in the first, in the order in which
they are written. -/
def newTrophies (w : World) (s t : GameState) : List Authored.Achievement :=
  w.scoring.achievements.filter fun a =>
    t.flags.has (.achievement a.id) && !s.flags.has (.achievement a.id)

/-- The check of a written world sees to its trophies. -/
theorem trophyRules_of_compile {a : Authored.World} {w : World} (h : World.compile a = .ok w) :
    w.TrophyRules := by
  obtain ⟨hfaults, hresolved⟩ := compile_eq_ok h
  have hgame := (Authored.World.faultless hfaults).game
  unfold Authored.gameFaults Authored.scoringFaults at hgame
  simp only [List.append_eq_nil_iff, List.map_eq_nil_iff, repeated_eq_nil_iff,
    List.flatMap_eq_nil_iff] at hgame
  obtain ⟨-, ⟨-, hdistinct⟩, hpositive⟩ := hgame
  rw [← achievements_of_resolved hresolved] at hdistinct hpositive
  refine ⟨hdistinct, fun achievement hmem hzero => ?_⟩
  have hfault := hpositive achievement hmem
  rw [if_pos hzero] at hfault
  cases hfault

end World

variable {w : World} {s t u v : GameState} {messages : List String}

/-! ## Granting -/

/-- The states have the same score and the same trophies. -/
structure SameStanding (s t : GameState) : Prop where
  score : t.score = s.score
  trophies : ∀ id, t.flags.has (.achievement id) = s.flags.has (.achievement id)

/-- Every trophy whose threshold is reached is held. -/
def Decorated (w : World) (s : GameState) : Prop :=
  ∀ a ∈ w.scoring.achievements, a.threshold ≤ s.score → s.flags.has (.achievement a.id) = true

/-- The trophies after a step are those before it and those whose threshold the score has reached,
and what is announced are the new ones. -/
structure Granted (w : World) (s : GameState) (messages : List String) (t : GameState) : Prop where
  held : ∀ a ∈ w.scoring.achievements, t.flags.has (.achievement a.id) =
    (s.flags.has (.achievement a.id) || decide (a.threshold ≤ t.score))
  announced : messages = (w.newTrophies s t).map (·.message)

theorem Unrewarded.sameStanding (h : Unrewarded w s t) : SameStanding s t where
  score := h.score
  trophies id := h.kept (.achievement id) (by rfl) fun _ => Flag.noConfusion

namespace SameStanding

theorem rfl : SameStanding s s := ⟨Eq.refl _, fun _ => Eq.refl _⟩

theorem trans (h : SameStanding s t) (h' : SameStanding t u) : SameStanding s u where
  score := h'.score.trans h.score
  trophies id := (h'.trophies id).trans (h.trophies id)

theorem decorated (h : SameStanding s t) (hs : Decorated w s) : Decorated w t := by
  intro a ha hreached
  rw [h.score] at hreached
  rw [h.trophies]
  exact hs a ha hreached

theorem newTrophies (h : SameStanding s u) (h' : SameStanding v t) :
    w.newTrophies s t = w.newTrophies u v := by
  unfold World.newTrophies
  simp only [h.trophies, h'.trophies]

/-- Where nothing changes nothing is granted. -/
theorem granted (h : SameStanding s t) (hs : Decorated w s) : Granted w s [] t where
  held a ha := by
    rw [h.trophies, h.score]
    by_cases hreached : a.threshold ≤ s.score
    · rw [hs a ha hreached, Bool.true_or]
    · rw [decide_eq_false hreached, Bool.or_false]
  announced := by
    unfold World.newTrophies
    simp [h.trophies]

end SameStanding

namespace Granted

theorem congr (h : Granted w u messages v) (hs : SameStanding s u) (ht : SameStanding v t) :
    Granted w s messages t where
  held a ha := by rw [ht.trophies, ht.score, ← hs.trophies, h.held a ha]
  announced := by rw [hs.newTrophies ht, h.announced]

theorem decorated (h : Granted w s messages t) : Decorated w t := by
  intro a ha hreached
  rw [h.held a ha, decide_eq_true hreached, Bool.or_true]

end Granted

namespace GameState

/-- Of a list of different trophies those are announced that are not held yet and whose threshold is
reached. -/
theorem announced_grantAchievements {achievements : List Authored.Achievement}
    (hdistinct : (achievements.map (·.id)).Nodup) :
    (s.grantAchievements achievements).2 = (achievements.filter fun a =>
      decide (a.threshold ≤ s.score) && !s.flags.has (.achievement a.id)).map (·.message) := by
  induction achievements generalizing s with
  | nil => rfl
  | cons first rest ih =>
    rw [List.map_cons, List.nodup_cons] at hdistinct
    obtain ⟨hfirst, hrest⟩ := hdistinct
    unfold grantAchievements
    split
    · rename_i hnew
      -- the rest is not touched by the first trophy
      have hsame : ∀ a ∈ rest, (s.flags.insert (.achievement first.id)).has (.achievement a.id) =
          s.flags.has (.achievement a.id) := by
        intro a ha
        have hother : first.id ≠ a.id := fun heq =>
          hfirst (List.mem_map.mpr ⟨a, ha, heq.symm⟩)
        simp [hother]
      rw [List.filter_cons, if_pos hnew, List.map_cons]
      refine congrArg (first.message :: ·) ((ih hrest).trans ?_)
      refine congrArg (List.map _ ·) (List.filter_congr fun a ha => ?_)
      simp only [hsame a ha]
    · rename_i hnot
      rw [List.filter_cons, if_neg hnot, ih hrest]

/-- An award grants the trophies whose threshold the score then reaches. -/
theorem granted_awardOnce (hw : w.TrophyRules) {guardFlag : Flag} {points : Int}
    (hguard : guardFlag.isTrophy = false)
    (h : s.awardOnce w guardFlag points = some (t, messages)) : Granted w s messages t := by
  obtain ⟨-, hscore, hhas⟩ := has_awardOnce h
  -- the guard is none of the trophies
  have hother : ∀ id, Flag.achievement id ≠ guardFlag := by
    rintro id rfl
    cases hguard
  have hafter : ∀ a ∈ w.scoring.achievements, t.flags.has (.achievement a.id) =
      (s.flags.has (.achievement a.id) || decide (a.threshold ≤ t.score)) := by
    intro a ha
    have hown : (∃ b ∈ w.scoring.achievements,
        Flag.achievement a.id = .achievement b.id ∧ b.threshold ≤ t.score) ↔
          a.threshold ≤ t.score := by
      constructor
      · rintro ⟨b, hb, heq, hreached⟩
        rwa [List.inj_on_of_nodup_map hw.distinct ha hb (Flag.achievement.inj heq)]
      · exact fun hreached => ⟨a, ha, rfl, hreached⟩
    rw [Bool.eq_iff_iff, hhas, hown, or_iff_right (hother a.id), Bool.or_eq_true,
      decide_eq_true_iff]
  refine ⟨hafter, ?_⟩
  unfold awardOnce at h
  split at h
  · cases h
  · unfold addScore at h
    obtain ⟨-, hmessages⟩ := Prod.mk.inj (Option.some.inj h)
    rw [← hmessages]
    refine (announced_grantAchievements hw.distinct).trans ?_
    refine congrArg (List.map _ ·) (List.filter_congr fun a ha => ?_)
    show (decide (a.threshold ≤ adjust s.score points) &&
      !(s.flags.insert guardFlag).has (.achievement a.id)) = _
    rw [has_insert, decide_eq_false (hother a.id).symm, Bool.false_or, ← hscore, hafter a ha]
    cases s.flags.has (.achievement a.id) <;> simp

end GameState

/-! ## Commands -/

/-- **The rewarded step** grants trophies, as long as the world names none itself. -/
theorem Rewards.granted (hw : w.TrophyRules) (hsilent : w.Silent Flag.isTrophy)
    (hs : Decorated w s) (h : Rewards w s messages t) : Granted w s messages t := by
  cases h with
  | nothing => exact SameStanding.rfl.granted hs
  | arrival _ _ h => exact granted_awardOnce hw rfl h
  | @marks a i _ _ hobject hentry h =>
    obtain ⟨u, hreveal, hmarked⟩ := Action.applyMarks_eq_ok h
    have hnamed := hsilent.2 _ _ _ _ hobject hentry
    have hbefore : SameStanding s { s with flags := i.marked s.flags } := by
      refine ⟨rfl, fun id => ?_⟩
      have hunnamed : ∀ fs ⊆ i.grants ++ i.removes, Flag.achievement id ∉ fs := fun fs hsub hmem =>
        Bool.false_ne_true (hnamed _ (hsub hmem)).symm
      show (i.marked s.flags).has (.achievement id) = s.flags.has (.achievement id)
      rw [Interaction.has_marked,
        decide_eq_false (hunnamed _ (List.subset_append_right ..)),
        decide_eq_false (hunnamed _ (List.subset_append_left ..))]
      rfl
    have hafter : SameStanding u t :=
      ⟨(Action.reveal_eq_ok hreveal).1, fun id =>
        Action.has_reveal hreveal fun _ => Flag.noConfusion⟩
    rcases hmarked with ⟨rfl, rfl⟩ | ⟨-, haward⟩
    · exact (hbefore.trans hafter).granted hs
    · exact (granted_awardOnce hw rfl haward).congr hbefore hafter

/-- A command that takes a turn grants trophies and announces them. -/
theorem granted_of_told (hw : w.Coherent) (hrules : w.TrophyRules)
    (hsilent : w.Silent Flag.isTrophy) (hs : Decorated w s) {texts : Messages} {command : Command}
    {story : List String} (h : Told w texts s command story messages t) :
    Granted w s messages t := by
  obtain ⟨u, v, hbefore, hrewards, hafter⟩ := stages_of_told hw h
  have hgranted := hrewards.granted hrules hsilent (hbefore.sameStanding.decorated hs)
  exact hgranted.congr hbefore.sameStanding hafter.sameStanding

/-- **Every command** grants trophies. -/
theorem granted_execute (hw : w.Coherent) (hrules : w.TrophyRules)
    (hsilent : w.Silent Flag.isTrophy) (hs : Decorated w s) (hplaced : Placed w s)
    (hhere : w.hasScene s.currentScene = true) (settings : Settings) (command : Command) :
    ∃ messages, Granted w s messages (s.execute w settings command).2 := by
  rcases execute_cases hplaced hhere settings command with hsame | ⟨t, events, hcarried, htick⟩
  · rw [hsame]
    exact ⟨[], SameStanding.rfl.granted hs⟩
  · obtain ⟨u, v, trophies, hbefore, hrewards, hafter⟩ := stages_of_carriedOut hw hcarried
    have hgranted := hrewards.granted hrules hsilent (hbefore.sameStanding.decorated hs)
    have hturn : SameStanding t { t with turnCount := t.turnCount + 1 } := ⟨rfl, fun _ => rfl⟩
    exact ⟨trophies, hgranted.congr hbefore.sameStanding
      ((hafter.sameStanding.trans hturn).trans (unrewarded_tick htick).sameStanding)⟩

end TextAdventure
