import TextAdventure.Game
import TextAdventure.Proofs.Play.Acting
import TextAdventure.Proofs.Snapshot

/-!
# Runs of a game

A game is driven from outside by calls, in any order and whatever their answers. A `Settled` game
has a placed state with the player in a scene; a new game is settled (`settled_new`), and every
call keeps it so, either by moves or by restoring a state that is well placed (`call_cases`).
-/

namespace TextAdventure

open Std Relation GameState

/-- A call of the game from outside. -/
inductive Call where
  | start
  | execute (command : Command)
  | setFlag (flag : Flag)
  | clearFlag (flag : Flag)
  | restore (snap : Snapshot)

namespace Game

/-- The game after a call, whatever its answer. -/
def call (g : Game) : Call → Game
  | .start => g.start.2
  | .execute command => (g.execute command).2
  | .setFlag flag => (g.setFlag flag).2
  | .clearFlag flag => (g.clearFlag flag).2
  | .restore snap => (g.restore snap).2

/-- The game after a sequence of calls. -/
def run (g : Game) (calls : List Call) : Game := calls.foldl call g

variable {g : Game} {w : World} {settings : Settings}

/-! ## The world -/

theorem withFlags_world {flags : FlagSet} : (g.withFlags flags).2.world = g.world := by
  unfold withFlags
  simp only
  split <;> rfl

/-- No call changes the world. -/
@[simp] theorem call_world (c : Call) : (g.call c).world = g.world := by
  cases c with
  | start => rfl
  | execute command => rfl
  | setFlag flag => exact withFlags_world
  | clearFlag flag => exact withFlags_world
  | restore snap =>
    show (g.restore snap).2.world = g.world
    unfold restore
    split <;> rfl

@[simp] theorem run_world (calls : List Call) : (g.run calls).world = g.world := by
  unfold run
  induction calls generalizing g with
  | nil => rfl
  | cons c rest ih =>
    rw [List.foldl_cons, ih]
    exact call_world c

theorem withFlags_settings {flags : FlagSet} : (g.withFlags flags).2.settings = g.settings := by
  unfold withFlags
  simp only
  split <;> rfl

/-- No call changes the settings either. -/
@[simp] theorem call_settings (c : Call) : (g.call c).settings = g.settings := by
  cases c with
  | start => rfl
  | execute command => rfl
  | setFlag flag => exact withFlags_settings
  | clearFlag flag => exact withFlags_settings
  | restore snap =>
    show (g.restore snap).2.settings = g.settings
    unfold restore
    split <;> rfl

@[simp] theorem run_settings (calls : List Call) : (g.run calls).settings = g.settings := by
  unfold run
  induction calls generalizing g with
  | nil => rfl
  | cons c rest ih =>
    rw [List.foldl_cons, ih]
    exact call_settings c

theorem run_append (calls more : List Call) : g.run (calls ++ more) = (g.run calls).run more :=
  List.foldl_append

/-- What each of the calls preserves holds after them. -/
theorem run_invariant_of {P : Game → Prop} {calls : List Call}
    (hcall : ∀ g, ∀ c ∈ calls, P g → P (g.call c)) (hg : P g) : P (g.run calls) := by
  unfold run
  induction calls generalizing g with
  | nil => exact hg
  | cons c rest ih =>
    rw [List.foldl_cons]
    exact ih (fun g c hc => hcall g c (List.mem_cons_of_mem _ hc))
      (hcall g c (List.mem_cons_self ..) hg)

/-- What every call preserves holds after every run. -/
theorem run_invariant {P : Game → Prop} (hcall : ∀ g c, P g → P (g.call c)) (hg : P g)
    (calls : List Call) : P (g.run calls) :=
  run_invariant_of (fun g c _ => hcall g c) hg

/-! ## New games -/

/-- A new game is in the configured world, in a new state with the light brought up to date. -/
theorem new_eq_ok_iff : Game.new w settings = .ok g ↔
    g.world = w.configured settings ∧ g.settings = settings ∧
      ∃ s, GameState.new g.world = .ok s ∧ s.relit g.world = .ok g.state := by
  unfold Game.new
  simp only [bind_eq_ok, pure_eq_ok]
  constructor
  · rintro ⟨s, hs, t, ht, rfl⟩
    exact ⟨rfl, rfl, s, hs, ht⟩
  · rintro ⟨hworld, rfl, s, hs, ht⟩
    rw [hworld] at hs ht
    refine ⟨s, hs, g.state, ht, ?_⟩
    rw [← hworld]

/-- The state is placed and the player is in a scene. -/
structure Settled (g : Game) : Prop where
  placed : Placed g.world g.state
  here : g.world.hasScene g.state.currentScene = true

/-- A new game is settled. -/
theorem settled_new (h : Game.new w settings = .ok g) : g.Settled := by
  obtain ⟨-, -, s, hs, ht⟩ := new_eq_ok_iff.mp h
  -- bringing the light up to date moves nothing and nobody
  have hflags := onlyFlags_relit ht
  refine ⟨hflags.onlyMarks.sameHolders.placed (placed_new hs), ?_⟩
  obtain ⟨flags, heq⟩ := hflags
  rw [heq]
  show g.world.hasScene s.currentScene = true
  rw [currentScene_new hs]
  exact (new_eq_ok.mp hs).1

/-- A new game is acyclic when no object starts inside itself. -/
theorem acyclic_new (h : Game.new w settings = .ok g)
    (hacyclic : ∀ o, ¬ TransGen w.StartsInside o o) : g.state.Acyclic := by
  obtain ⟨hworld, -, s, hs, ht⟩ := new_eq_ok_iff.mp h
  rw [hworld] at hs
  exact (onlyFlags_relit ht).onlyMarks.sameHolders.acyclic (wellPlaced_new hs hacyclic).acyclic

/-! ## Calls -/

theorem withFlags_frame (g : Game) (flags : FlagSet) :
    SameHolders g.state (g.withFlags flags).2.state ∧
      (g.withFlags flags).2.state.currentScene = g.state.currentScene := by
  unfold withFlags
  simp only
  split
  · rename_i u hu
    obtain ⟨_, rfl⟩ := onlyFlags_relit hu
    exact ⟨⟨rfl, rfl, rfl⟩, rfl⟩
  · exact ⟨⟨rfl, rfl, rfl⟩, rfl⟩

/-- A command changes the holders by moves only, and keeps the player in a scene. -/
theorem moved_execute (hg : g.Settled) (command : Command) :
    ∃ log, Moved g.world g.state log (g.execute command).2.state ∧
      g.world.hasScene (g.execute command).2.state.currentScene = true := by
  obtain ⟨log, hexecuted⟩ := executed hg.placed hg.here g.settings command
  show ∃ log, Moved g.world g.state log (g.state.execute g.world g.settings command).2 ∧
    g.world.hasScene (g.state.execute g.world g.settings command).2.currentScene = true
  generalize g.state.execute g.world g.settings command = out at hexecuted ⊢
  cases hexecuted with
  | failed cause => exact ⟨[], .still .rfl, hg.here⟩
  | free r hturn => exact ⟨[], .still .rfl, hg.here⟩
  | done r hturn hsuccess hmoved hturns hhere => exact ⟨log, hmoved, hhere⟩

/-- **Every call** changes the holders by moves only, or restores a state that is well placed;
either way the player is in a scene. -/
theorem call_cases (hg : g.Settled) (c : Call) :
    ((∃ log, Moved g.world g.state log (g.call c).state) ∨ WellPlaced g.world (g.call c).state) ∧
      g.world.hasScene (g.call c).state.currentScene = true := by
  cases c with
  | start =>
    obtain ⟨here, flags, heq, hhere⟩ := enterScene_frame g.world g.state g.state.currentScene
    simp only [call, start, heq]
    exact ⟨.inl ⟨[], .still ⟨rfl, rfl, rfl⟩⟩, hhere hg.here⟩
  | execute command =>
    obtain ⟨log, hmoved, hhere⟩ := moved_execute hg command
    exact ⟨.inl ⟨log, hmoved⟩, hhere⟩
  | setFlag flag =>
    obtain ⟨hsame, hscene⟩ := withFlags_frame g (g.state.flags.insert flag)
    exact ⟨.inl ⟨[], .still hsame⟩, hscene ▸ hg.here⟩
  | clearFlag flag =>
    obtain ⟨hsame, hscene⟩ := withFlags_frame g (g.state.flags.erase flag)
    exact ⟨.inl ⟨[], .still hsame⟩, hscene ▸ hg.here⟩
  | restore snap =>
    show ((∃ log, Moved g.world g.state log (g.restore snap).2.state) ∨
      WellPlaced g.world (g.restore snap).2.state) ∧
        g.world.hasScene (g.restore snap).2.state.currentScene = true
    unfold restore
    split
    · rename_i s hs
      exact ⟨.inr (Snapshot.wellPlaced_restore hs), Snapshot.here_restore hs⟩
    · exact ⟨.inl ⟨[], .still .rfl⟩, hg.here⟩

theorem settled_call (hg : g.Settled) (c : Call) : (g.call c).Settled := by
  obtain ⟨hcases, hhere⟩ := call_cases hg c
  constructor
  · rw [call_world]
    rcases hcases with ⟨log, hmoved⟩ | hrestored
    · exact hmoved.placed hg.placed
    · exact hrestored.toPlaced
  · rw [call_world]
    exact hhere

/-- **Every game that is reached is settled.** -/
theorem settled_run (hg : g.Settled) (calls : List Call) : (g.run calls).Settled :=
  run_invariant (P := Settled) (fun _ c hg => settled_call hg c) hg calls

theorem acyclic_call (hg : g.Settled) (ha : g.state.Acyclic) (c : Call) :
    (g.call c).state.Acyclic := by
  rcases (call_cases hg c).1 with ⟨log, hmoved⟩ | hrestored
  · exact (hmoved.wellPlaced ⟨hg.placed, ha⟩).acyclic
  · exact hrestored.acyclic

/-- Every state that is reached from an acyclic one is well placed. -/
theorem wellPlaced_run (hg : g.Settled) (ha : g.state.Acyclic) (calls : List Call) :
    WellPlaced g.world (g.run calls).state := by
  obtain ⟨hsettled, hacyclic⟩ := run_invariant (P := fun g => g.Settled ∧ g.state.Acyclic)
    (fun _ c hg => ⟨settled_call hg.1 c, acyclic_call hg.1 hg.2 c⟩) ⟨hg, ha⟩ calls
  have hplaced := hsettled.placed
  rw [run_world] at hplaced
  exact ⟨hplaced, hacyclic⟩

end Game

end TextAdventure
