import TextAdventure.Proofs.Game.Light
import TextAdventure.Proofs.Play.Silence

/-!
# Arrivals

Going through an exit makes its target the current scene, counts it as visited, brings the light up
to date and gives the points of the exit, unless points were given for arriving there before. What
is reported are the points that are written (`Arrived.points`), but no more of them than
`exitPointsLimit` are added to the score (`Arrived.score`). So the report and the score agree
exactly as long as the exit is worth no more than that, or the score is at its end anyway
(`traverse_reports`).
-/

namespace TextAdventure

open Std GameState

namespace GameState

variable {w : World} {s t : GameState} {e : Exit}

/-- The exit has points that have not been given yet. -/
def Earns (s : GameState) (e : Exit) : Prop :=
  0 < e.score ∧ s.flags.has (.exitScored e.destination) = false

instance (s : GameState) (e : Exit) : Decidable (s.Earns e) := inferInstanceAs (Decidable (_ ∧ _))

/-- The flags that an arrival leaves behind, the light apart. -/
def Leaves (w : World) (s : GameState) (e : Exit) (score : Nat) (f : Flag) : Prop :=
  s.flags.has f = true ∨ f = .sceneVisited e.destination ∨ s.Earns e ∧
    (f = .exitScored e.destination ∨
      ∃ a ∈ w.scoring.achievements, f = .achievement a.id ∧ a.threshold ≤ score)

/-- The state after going through an exit, and what is reported. -/
structure Arrived (w : World) (s : GameState) (e : Exit) (arrival : Arrival) (t : GameState) :
    Prop where
  points : arrival.points = if s.Earns e then e.score else 0
  score : t.score = min counterLimit (s.score + min arrival.points exitPointsLimit)
  flags : ∀ f, f ≠ .light → (t.flags.has f = true ↔ Leaves w s e t.score f)
  fresh : t.Fresh w
  frame : t = { s with currentScene := e.destination, flags := t.flags, score := t.score }

/-! ## Entering and awarding -/

/-- In a scene that has been entered the flag for light is fresh. -/
theorem fresh_of_enterScene {scene : Id} {text : String}
    (h : s.enterScene w scene = (.ok text, t)) : t.Fresh w := by
  obtain ⟨-, here, view, hhere, -, -, rfl⟩ := enterScene_eq_ok_iff.mp h
  exact (fresh_of_relit hhere).visited scene

/-- An award does not change the light. -/
theorem Fresh.awardOnce (h : s.Fresh w) {guardFlag : Flag} (hguard : guardFlag.isGuard = true)
    {points : Int} {messages : List String}
    (haward : s.awardOnce w guardFlag points = some (t, messages)) : t.Fresh w := by
  obtain ⟨-, -, hhas⟩ := awardOnce_eq_some haward
  have hkept : ∀ f, f.isPhysical = true → t.flags.has f = s.flags.has f := by
    intro f hf
    have hne : guardFlag ≠ f := by
      rintro rfl
      rw [Flag.isPhysical_of_isGuard hguard] at hf
      cases hf
    have htrophy : ∀ id, f ≠ .achievement id := by
      rintro id rfl
      cases hf
    rw [hhas f htrophy, decide_eq_false hne, Bool.false_or]
  obtain ⟨flags, score, rfl⟩ := onlyMarks_awardOnce haward
  unfold Fresh
  rw [hkept .light rfl, ← h]
  refine hasLight_congr ⟨rfl, rfl, rfl⟩ rfl fun id => ?_
  unfold lampOf
  rw [hkept (.lightDead id) rfl, hkept (.lightOn id) rfl]

/-- Points that are awarded for an exit are added to the score, up to the limit for exits. -/
theorem adjust_exitPoints (score points : Nat) :
    adjust score (min points exitPointsLimit : Nat)
      = min counterLimit (score + min points exitPointsLimit) := by
  unfold adjust
  rw [← Int.natCast_add, Int.toNat_natCast]

/-! ## Going through an exit -/

/-- What is reported for going through an exit has come about. -/
theorem arrived_of_traverse (hscore : s.score ≤ counterLimit) {arrival : Arrival}
    (h : s.traverse w e = (.ok arrival, t)) : Arrived w s e arrival t := by
  obtain ⟨u, hu, hawarded⟩ := traverse_eq_ok h
  have hflags : ∀ f, f ≠ .light →
      (u.flags.has f = true ↔ s.flags.has f = true ∨ f = .sceneVisited e.destination) := by
    intro f hf
    rw [has_entered hu hf, Bool.or_eq_true, decide_eq_true_iff, or_comm]
  have hguard : u.flags.has (.exitScored e.destination)
      = s.flags.has (.exitScored e.destination) := by
    rw [has_entered hu Flag.noConfusion, decide_eq_false Flag.noConfusion, Bool.false_or]
  have hfresh := fresh_of_enterScene hu
  obtain ⟨-, flags, hentered⟩ := enterScene_eq hu
  have hsame : u.score = s.score := by rw [hentered]
  -- no points to give now, or points that are given
  rcases hawarded with ⟨hnone, harrival, rfl⟩ | ⟨hpoints, harrival, haward⟩
  · have hearns : ¬s.Earns e := by
      rintro ⟨hpositive, hunset⟩
      rcases hnone with hzero | hnone
      · exact hpositive.ne' hzero
      · rw [awardOnce_eq_none, hguard, hunset] at hnone
        cases hnone
    have hzero : arrival.points = 0 := by rw [harrival]
    constructor
    case points => rw [hzero, if_neg hearns]
    case score => rw [hsame, hzero, Nat.zero_min, Nat.add_zero, Nat.min_eq_right hscore]
    case flags =>
      intro f hf
      unfold Leaves
      simp only [hflags f hf, hearns, false_and, or_false]
    case fresh => exact hfresh
    case frame => rw [hentered]
  · obtain ⟨hunset, hadjusted, hhas⟩ := has_awardOnce haward
    have hearns : s.Earns e := ⟨Nat.pos_of_ne_zero hpoints, hguard ▸ hunset⟩
    constructor
    case points => rw [harrival, if_pos hearns]
    case score => rw [hadjusted, hsame, harrival, adjust_exitPoints]
    case flags =>
      intro f hf
      unfold Leaves
      rw [hhas f, hflags f hf, or_assoc, and_iff_right hearns]
    case fresh => exact hfresh.awardOnce rfl haward
    case frame =>
      obtain ⟨flags, score, rfl⟩ := onlyMarks_awardOnce haward
      rw [hentered]

/-- **Reports of arrivals.** Where all that is held exists, every exit can be taken whose target is
a scene with exits to scenes, and what is reported has come about. The score goes up by what is
reported exactly when that is within the limit for exits, or the score is at its end even with the
limit only. As long as the flag holds that guards the points for the target, every exit that leads
there earns nothing. -/
theorem traverse_reports (hs : HeldKnown w s) (hscore : s.score ≤ counterLimit) {sc : Scene}
    (hsc : w.scenes[e.destination]? = some sc)
    (hexits : ∀ e' ∈ sc.exits, w.hasScene e'.destination = true) :
    ∃ arrival t, s.traverse w e = (.ok arrival, t) ∧ Arrived w s e arrival t ∧
      (t.score = min counterLimit (s.score + arrival.points) ↔
        arrival.points ≤ exitPointsLimit ∨ counterLimit ≤ s.score + exitPointsLimit) ∧
      ∀ (u : GameState) (e' : Exit), HeldKnown w u → u.score ≤ counterLimit →
        u.flags.has (.exitScored e.destination) = true → e'.destination = e.destination →
        ∃ later v, u.traverse w e' = (.ok later, v) ∧ later.points = 0 ∧ v.score = u.score := by
  obtain ⟨arrival, t, h⟩ := traverse_ok_of_held hs hsc hexits
  have harrived := arrived_of_traverse hscore h
  refine ⟨arrival, t, h, harrived, ?_, fun u e' hu hlow hset hsame => ?_⟩
  · rw [harrived.score]
    omega
  · rw [← hsame] at hsc hset
    obtain ⟨later, v, hlater⟩ := traverse_ok_of_held hu hsc hexits
    have hback := arrived_of_traverse hlow hlater
    have hnone : later.points = 0 := by
      rw [hback.points, if_neg fun hearns => Bool.false_ne_true (hearns.2.symm.trans hset)]
    refine ⟨later, v, hlater, hnone, ?_⟩
    rw [hback.score, hnone, Nat.zero_min, Nat.add_zero, Nat.min_eq_right hlow]

end GameState

/-! ## A summit -/

/-- A camp with a lake to the east of it, and a summit above it that is worth more than an exit can
add to the score. -/
def summit : Authored.World where
  game := { title := "Summit", startScene := "camp" }
  scenes := [
    { id := "camp", name := "Camp", lit := true, desc := { text := "A camp." },
      exits := [{ direction := "up", destination := "summit", score := 2147483648 },
        { direction := "east", destination := "lake", score := 5 }] },
    { id := "summit", name := "Summit", lit := true, desc := { text := "A summit." } },
    { id := "lake", name := "Lake", lit := true, desc := { text := "A lake." },
      exits := [{ direction := "west", destination := "camp" }] }]

namespace Game

/-- What holds of the exit of the camp that a token means. -/
def leaving (token : String) (check : Game → Exit → Bool) (g : Game) : Bool :=
  match g.world.findExit "camp" token with
  | .ok (some e) => check g e
  | .ok none | .error _ => false

theorem exists_of_leaving {token : String} {check : Game → Exit → Bool} {g : Game}
    (h : leaving token check g = true) :
    ∃ e, g.world.findExit "camp" token = .ok (some e) ∧ check g e = true := by
  unfold leaving at h
  split at h
  · rename_i e he
    exact ⟨e, he, h⟩
  · cases h
  · cases h

/-- The lake earns what is written, once. -/
theorem lake_reached : ∃ w g e arrival t, World.compile summit = .ok w ∧ Game.new w {} = .ok g ∧
    g.world.findExit "camp" "east" = .ok (some e) ∧
    g.state.traverse g.world e = (.ok arrival, t) ∧ arrival.points = 5 ∧ t.score = 5 ∧
    ∃ later v, t.traverse g.world e = (.ok later, v) ∧ later.points = 0 ∧ v.score = 5 := by
  have hcheck : begun summit (leaving "east" fun g e =>
      decide (g.state.Earns e ∧ e.score = 5 ∧ g.state.score = 0)) = true := by
    decide +kernel
  obtain ⟨w, g, hw, hg, hleaving⟩ := exists_of_begun hcheck
  obtain ⟨e, he, hpoints⟩ := exists_of_leaving hleaving
  obtain ⟨hearns, hfive, hzero⟩ := of_decide_eq_true hpoints
  have hcoherent : g.world.Coherent := by
    rw [(new_eq_ok_iff.mp hg).1]
    exact (World.coherent_of_compile hw).configured
  have hplaced : Placed g.world g.state := (settled_new hg).placed
  obtain ⟨camp, hcamp, hexit⟩ := mem_of_findExit he
  obtain ⟨sc, hsc⟩ := World.hasScene_iff.mp (hcoherent.exits _ camp hcamp e hexit)
  obtain ⟨arrival, t, htraverse, harrived, hagree, hagain⟩ := GameState.traverse_reports
    hplaced.known (by rw [hzero]; exact Nat.zero_le _) hsc (hcoherent.exits _ sc hsc)
  have harrival : arrival.points = 5 := by rw [harrived.points, if_pos hearns, hfive]
  have hscore : t.score = 5 := by
    rw [hagree.mpr (.inl (by rw [harrival]; decide)), harrival, hzero]
    rfl
  -- back at the camp nothing has changed but the scene, the flags and the score
  have hsame : SameHolders g.state t := by
    rw [harrived.frame]
    exact ⟨rfl, rfl, rfl⟩
  have hset : t.flags.has (.exitScored e.destination) = true :=
    (harrived.flags _ Flag.noConfusion).mpr (.inr (.inr ⟨hearns, .inl rfl⟩))
  obtain ⟨later, v, hlater, hnone, hkept⟩ := hagain t e (hsame.heldKnown hplaced.known)
    (by rw [hscore]; decide) hset rfl
  exact ⟨w, g, e, arrival, t, hw, hg, he, htraverse, harrival, hscore, later, v, hlater, hnone,
    hkept.trans hscore⟩

/-- The summit is reported to earn one point more than the score goes up by. -/
theorem summit_underpaid : ∃ w g e arrival t, World.compile summit = .ok w ∧
    Game.new w {} = .ok g ∧ g.world.findExit "camp" "up" = .ok (some e) ∧
    g.state.traverse g.world e = (.ok arrival, t) ∧ g.state.score = 0 ∧
    arrival.points = 2147483648 ∧ t.score = 2147483647 := by
  have hcheck : begun summit (leaving "up" fun g e =>
      match g.state.traverse g.world e with
      | (.ok arrival, t) =>
        decide (g.state.score = 0 ∧ arrival.points = 2147483648 ∧ t.score = 2147483647)
      | (.error _, _) => false) = true := by
    decide +kernel
  obtain ⟨w, g, hw, hg, hleaving⟩ := exists_of_begun hcheck
  obtain ⟨e, he, harrived⟩ := exists_of_leaving hleaving
  split at harrived
  · rename_i arrival t htraverse
    exact ⟨w, g, e, arrival, t, hw, hg, he, htraverse, of_decide_eq_true harrived⟩
  · cases harrived

end Game

end TextAdventure
