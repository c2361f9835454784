import TextAdventure.Proofs.Game.Guarantees
import TextAdventure.Proofs.State.Loads

/-!
# Limits

Containers have a capacity and the player a carry limit; a state is `WithinLimits` when no load
exceeds them. A move asks its destination for room, but not the holders around the destination,
whose loads grow as well: a brick that is too heavy for a crate goes into a box inside the crate.

So the limits are not kept by every move. They are kept exactly by the moves that have room in all
holders around the destination (`withinLimits_move_iff`), and along the moves of a whole game
exactly when each of them has (`limits_in_play`).
-/

namespace TextAdventure

open Std Relation GameState

/-- No load exceeds the limit of its place, and there is a load wherever there is a limit. -/
def WithinLimits (w : World) (s : GameState) : Prop :=
  ∀ p cap, w.limit p = some cap → ∃ load, s.loadOf w p = .ok load ∧ load ≤ cap

/-- The places that can have a limit. -/
def World.limited (w : World) : List Place := .inventory :: w.objects.keys.map .container

theorem World.mem_limited {w : World} {p : Place} {cap : Nat} (h : w.limit p = some cap) :
    p ∈ w.limited := by
  unfold World.limited
  cases p with
  | inventory => exact List.mem_cons_self
  | container c =>
    obtain ⟨spec, hspec, -⟩ := Option.map_eq_some_iff.mp h
    obtain ⟨o, ho, -⟩ := Option.bind_eq_some_iff.mp hspec
    have hc : c ∈ w.objects := ExtTreeMap.mem_iff_isSome_getElem?.mpr (by rw [ho]; rfl)
    exact List.mem_cons_of_mem _ (List.mem_map_of_mem (ExtTreeMap.mem_keys.mpr hc))
  | scene _ => cases h
  | nowhere => cases h

/-- The load of the place does not exceed its limit. -/
def loadWithin (w : World) (s : GameState) (p : Place) : Bool :=
  match w.limit p, s.loadOf w p with
  | none, _ => true
  | some cap, .ok load => decide (load ≤ cap)
  | some _, .error _ => false

theorem loadWithin_iff {w : World} {s : GameState} {p : Place} : loadWithin w s p = true ↔
    ∀ cap, w.limit p = some cap → ∃ load, s.loadOf w p = .ok load ∧ load ≤ cap := by
  unfold loadWithin
  cases w.limit p <;> cases s.loadOf w p <;> simp

instance (w : World) (s : GameState) : Decidable (WithinLimits w s) :=
  decidable_of_iff (∀ p ∈ w.limited, loadWithin w s p = true)
    ⟨fun h p cap hcap => loadWithin_iff.mp (h p (World.mem_limited hcap)) cap hcap,
      fun h p _ => loadWithin_iff.mpr (h p)⟩

namespace Move

/-- The destination has room for what is moved into it. -/
def FitsDestination (w : World) (m : Move) : Prop :=
  (m.before.unplace m.item).Fits w m.item m.destination

/-- The destination and all holders around it have room for what is moved. -/
def FitsAround (w : World) (m : Move) : Prop :=
  let free := m.before.unplace m.item
  ∀ p ∈ free.around m.destination, free.Fits w m.item p

end Move

namespace GameState

variable {w : World} {s t : GameState} {byHand : Bool} {item : Id} {p : Place}

theorem limit_ne_nowhere {cap : Nat} (h : w.limit p = some cap) : p ≠ .nowhere := by
  rintro rfl
  cases h

theorem SameHolders.withinLimits (h : SameHolders s t) (hs : WellPlaced w s)
    (hl : WithinLimits w s) : WithinLimits w t := by
  intro p cap hcap
  rw [h.loadOf_eq hs (limit_ne_nowhere hcap)]
  exact hl p cap hcap

/-- Taking an object out keeps a state within its limits. -/
theorem withinLimits_unplace (hs : WellPlaced w s) (hl : WithinLimits w s) :
    WithinLimits w (s.unplace item) := by
  intro p cap hcap
  obtain ⟨load, hload, hle⟩ := hl p cap hcap
  obtain ⟨load', load'', hload', hload'', hle'⟩ :=
    loadOf_unplace_le (o := item) hs (limit_ne_nowhere hcap)
  rw [hload] at hload'
  obtain rfl := Except.ok.inj hload'
  exact ⟨load'', hload'', by omega⟩

/-- **One move** keeps the limits exactly when the destination and all holders around it have
room. -/
theorem withinLimits_move_iff (hs : WellPlaced w s) (hl : WithinLimits w s)
    (h : s.move w byHand item p = .ok t) :
    WithinLimits w t ↔ Move.FitsAround w ⟨s, byHand, item, p, t⟩ := by
  obtain ⟨hitem, hplace, -, -, htakes, rfl⟩ := move_eq_ok_iff.mp h
  have hout : ∀ q, ¬ (s.unplace item).Holds q item := fun _ => hs.single.not_holds_unplace
  have hu : WellPlaced w (s.unplace item) := hs.unplace
  have hfree := htakes.not_inside hu.single
  have hlu : WithinLimits w (s.unplace item) := withinLimits_unplace hs hl
  -- the loads around the destination grow by the weight, all others are what they were
  constructor
  · intro hafter q hq cap hcap
    have hne := limit_ne_nowhere hcap
    obtain ⟨load, hload, -⟩ := hlu q cap hcap
    have hweight := totalWeight_eq hu hitem
    obtain ⟨load', hload', hle⟩ := hafter q cap hcap
    rw [loadOf_added hu hout hitem hplace hfree hne hq hload hweight] at hload'
    exact ⟨load, _, hload, hweight, Except.ok.inj hload' ▸ hle⟩
  · intro hroom q cap hcap
    have hne := limit_ne_nowhere hcap
    by_cases hq : q ∈ (s.unplace item).around p
    · obtain ⟨load, weight, hload, hweight, hle⟩ := hroom q hq cap hcap
      exact ⟨_, loadOf_added hu hout hitem hplace hfree hne hq hload hweight, hle⟩
    · rw [loadOf_added_of_not_mem hu hout hitem hplace hfree hne hq]
      exact hlu q cap hcap

end GameState

/-! ## Runs of moves -/

namespace Moved

variable {w : World} {s t : GameState} {log : List Move}

/-- Every move has asked its destination for room. -/
theorem fitsDestination (h : Moved w s log t) : ∀ m ∈ log, m.FitsDestination w := by
  induction h with
  | still _ => exact fun m hm => (List.not_mem_nil hm).elim
  | move _ hm _ ih =>
    intro m' hm'
    rcases List.mem_cons.mp hm' with rfl | hm'
    · exact (move_eq_ok_iff.mp hm).2.2.2.2.1.room
    · exact ih m' hm'

/-- Along a run of moves the limits are kept exactly when every move has room all around. -/
theorem withinLimits (h : Moved w s log t) (hs : WellPlaced w s) (hl : WithinLimits w s) :
    ((∀ m ∈ log, WithinLimits w m.after) ↔ ∀ m ∈ log, m.FitsAround w) ∧
      ((∀ m ∈ log, m.FitsAround w) → WithinLimits w t) := by
  induction h with
  | still hsame => simp [hsame.withinLimits hs hl]
  | @move s t m log hsame hm _ ih =>
    have hbefore := hsame.wellPlaced hs
    have hlimits := withinLimits_move_iff hbefore (hsame.withinLimits hs hl) hm
    simp only [List.forall_mem_cons]
    constructor
    · constructor
      · rintro ⟨hafter, hrest⟩
        exact ⟨hlimits.mp hafter, (ih (hbefore.move hm) hafter).1.mp hrest⟩
      · rintro ⟨hroom, hrest⟩
        have hafter := hlimits.mpr hroom
        exact ⟨hafter, (ih (hbefore.move hm) hafter).1.mpr hrest⟩
    · rintro ⟨hroom, hrest⟩
      exact (ih (hbefore.move hm) (hlimits.mpr hroom)).2 hrest

end Moved

/-! ## Games -/

namespace Game

/-- The game after a sequence of commands. -/
def play (g : Game) (commands : List Command) : Game := g.run (commands.map .execute)

/-- The moves that a sequence of commands brings about, command by command. -/
inductive Played : Game → List Command → List (List Move) → Prop where
  | nil (g : Game) : Played g [] []
  | cons {g : Game} {command : Command} {commands : List Command} {log : List Move}
      {logs : List (List Move)} (hmoved : Moved g.world g.state log (g.execute command).2.state)
      (hrest : Played (g.execute command).2 commands logs) :
      Played g (command :: commands) (log :: logs)

variable {a : Authored.World} {w : World} {g : Game} {settings : Settings}
  {commands : List Command} {logs : List (List Move)}

/-- Every sequence of commands brings about its moves. -/
theorem exists_played (hg : g.Settled) (commands : List Command) :
    ∃ logs, Played g commands logs := by
  induction commands generalizing g with
  | nil => exact ⟨[], .nil g⟩
  | cons command rest ih =>
    obtain ⟨log, hmoved, -⟩ := moved_execute hg command
    obtain ⟨logs, hrest⟩ := ih (settled_call hg (.execute command))
    exact ⟨log :: logs, .cons hmoved hrest⟩

/-- All the moves together lead from the first state to the last. -/
theorem Played.moved (h : Played g commands logs) :
    Moved g.world g.state logs.flatten (g.play commands).state := by
  induction h with
  | nil g => exact .still .rfl
  | cons hmoved _ ih => exact hmoved.append ih

/-- When every move has room all around, every state between two commands is within the limits. -/
theorem Played.withinLimits (h : Played g commands logs) (hs : WellPlaced g.world g.state)
    (hl : WithinLimits g.world g.state) (hroom : ∀ m ∈ logs.flatten, m.FitsAround g.world)
    (n : Nat) : WithinLimits g.world (g.play (commands.take n)).state := by
  -- on the commands; a prefix of them is none, or the first one and a prefix of the rest
  induction h generalizing n with
  | nil g =>
    rw [List.take_nil]
    exact hl
  | @cons g command commands log logs hmoved _ ih =>
    cases n with
    | zero => exact hl
    | succ n =>
      rw [List.flatten_cons] at hroom
      have hfirst := (hmoved.withinLimits hs hl).2
        fun m hm => hroom m (List.mem_append_left _ hm)
      exact ih (hmoved.wellPlaced hs) hfirst (fun m hm => hroom m (List.mem_append_right _ hm)) n

/-- **Limits.** In a compiled world, from a new game that is within its limits, every sequence of
commands brings about moves, and each of them fits its destination. The limits hold after every
move exactly when every move also fits the holders around its destination, and then every state
that the commands reach is within the limits. -/
theorem limits_in_play (h : World.compile a = .ok w) (hg : Game.new w settings = .ok g)
    (hl : WithinLimits g.world g.state) (commands : List Command) :
    (∃ logs, Played g commands logs) ∧ ∀ logs, Played g commands logs →
      (∀ m ∈ logs.flatten, m.FitsDestination g.world) ∧
      ((∀ m ∈ logs.flatten, WithinLimits g.world m.after) ↔
        ∀ m ∈ logs.flatten, m.FitsAround g.world) ∧
      ((∀ m ∈ logs.flatten, m.FitsAround g.world) →
        ∀ n, WithinLimits g.world (g.play (commands.take n)).state) := by
  have hplaced : WellPlaced g.world g.state :=
    (reached (World.coherent_of_compile h) hg []).2.1
  refine ⟨exists_played (settled_new hg) commands, fun logs hplayed => ⟨?_, ?_, ?_⟩⟩
  · exact hplayed.moved.fitsDestination
  · exact (hplayed.moved.withinLimits hplaced hl).1
  · exact fun hroom n => hplayed.withinLimits hplaced hl hroom n

/-- The brickyard is within its limits, until the brick is taken and put into the box: then the
crate around the box holds more than its capacity. -/
theorem brickyard_overloaded : ∃ w g, World.compile brickyard = .ok w ∧ Game.new w {} = .ok g ∧
    WithinLimits g.world g.state ∧ ¬ WithinLimits g.world (g.play [takeBrick, putBrick]).state := by
  have hcheck : inBrickyard (fun g => decide (WithinLimits g.world g.state ∧
      ¬ WithinLimits g.world (g.play [takeBrick, putBrick]).state)) = true := by
    decide +kernel
  obtain ⟨w, g, hw, hg, hlimits⟩ := exists_of_inBrickyard hcheck
  exact ⟨w, g, hw, hg, of_decide_eq_true hlimits⟩

/-- Not every move of the brick has room all around, though each fits its destination. -/
theorem brickyard_limits : ∃ w g logs, World.compile brickyard = .ok w ∧
    Game.new w {} = .ok g ∧ WithinLimits g.world g.state ∧
    Played g [takeBrick, putBrick] logs ∧ (∀ m ∈ logs.flatten, m.FitsDestination g.world) ∧
    ¬ ∀ m ∈ logs.flatten, m.FitsAround g.world := by
  obtain ⟨w, g, hw, hg, hbefore, hafter⟩ := brickyard_overloaded
  obtain ⟨⟨logs, hplayed⟩, hlogs⟩ := limits_in_play hw hg hbefore [takeBrick, putBrick]
  obtain ⟨hfits, -, hkept⟩ := hlogs logs hplayed
  exact ⟨w, g, logs, hw, hg, hbefore, hplayed, hfits, fun hroom => hafter (hkept hroom 2)⟩

end Game

end TextAdventure
