import TextAdventure.Proofs.Game.Runs
import TextAdventure.Proofs.Play.Answers

/-!
# What holds in every game

Three guarantees for every order of calls of a game.

* **placement** — in a compiled world every object stays in one place that exists, and nothing
  ends up inside itself (`placement_invariant`);
* **all or nothing** — in any world a command that fails, is refused or takes no time leaves the
  game as it was, and one that takes a turn counts it (`execute_all_or_nothing`);
* **no faults** — a compiled world can be played, and no call but a restore ever fails
  (`no_fault_in_play`).
-/

namespace TextAdventure

open Std Relation GameState

variable {a : Authored.World} {w : World} {g : Game} {s : GameState} {settings : Settings}

/-! ## Configured worlds -/

/-- Settings change nothing that a world refers to. -/
theorem World.Coherent.configured (hw : w.Coherent) : (w.configured settings).Coherent where
  start := hw.start
  key := hw.key
  exits := hw.exits
  starts := hw.starts
  entries id o verb i ho hi := by
    obtain ⟨htools, hreveals, htransfers, hscene⟩ := hw.entries id o verb i ho hi
    exact ⟨htools, hreveals, htransfers, hscene⟩
  acyclic := hw.acyclic

theorem GameState.WellPlaced.of_configured (hs : WellPlaced (w.configured settings) s) :
    WellPlaced w s where
  single := hs.single
  known := hs.known
  containers := hs.containers
  scenes := hs.scenes
  acyclic := hs.acyclic

namespace Game

/-- A game in a coherent world can begin. -/
theorem new_ok (hw : w.Coherent) (settings : Settings) : ∃ g, Game.new w settings = .ok g := by
  have hw' : (w.configured settings).Coherent := hw.configured
  obtain ⟨s, hs⟩ := GameState.new_ok hw'.start hw'.starts
  have hhere : (w.configured settings).hasScene s.currentScene = true := by
    rw [currentScene_new hs]
    exact hw'.start
  obtain ⟨t, ht⟩ := relit_ok (placed_new hs).known hhere
  refine ⟨⟨w.configured settings, t, settings⟩, ?_⟩
  exact new_eq_ok_iff.mpr ⟨rfl, rfl, s, hs, ht⟩

/-- In a compiled world every game that is reached is in a coherent world, well placed and with
the player in a scene. -/
theorem reached (hw : w.Coherent) (hg : Game.new w settings = .ok g) (calls : List Call) :
    (g.run calls).world.Coherent ∧ WellPlaced (g.run calls).world (g.run calls).state ∧
      (g.run calls).world.hasScene (g.run calls).state.currentScene = true := by
  have hsettled := settled_new hg
  have hworld := (new_eq_ok_iff.mp hg).1
  refine ⟨?_, ?_, (settled_run hsettled calls).here⟩
  · rw [run_world, hworld]
    exact hw.configured
  · rw [run_world]
    exact wellPlaced_run hsettled (acyclic_new hg hw.acyclic) calls

/-! ## A small world -/

/-- A yard with a crate, a roomy box inside the crate, and a brick that is too heavy for the
crate. -/
def brickyard : Authored.World where
  game := { title := "Brickyard", startScene := "yard" }
  scenes := [{ id := "yard", name := "Yard", lit := true, desc := { text := "A yard." } }]
  objects := [
    { id := "crate", name := "crate", desc := { text := "A crate." }, location := .scene "yard",
      container := some { capacity := 5, isOpen := true } },
    { id := "box", name := "box", desc := { text := "A box." }, location := .container "crate",
      container := some { capacity := 100, isOpen := true } },
    { id := "brick", name := "brick", desc := { text := "A brick." }, location := .scene "yard",
      takeable := true, weight := 10 }]

/-- Taking the brick. -/
def takeBrick : Command := { verb := "take", object := some "brick" }

/-- Putting the brick into the box. -/
def putBrick : Command := { verb := "put", object := some "brick", target := some "box" }

/-- A check of the new game in the brickyard. -/
def inBrickyard (check : Game → Bool) : Bool :=
  match World.compile brickyard with
  | .error _ => false
  | .ok w =>
    match Game.new w {} with
    | .error _ => false
    | .ok g => check g

theorem exists_of_inBrickyard {check : Game → Bool} (h : inBrickyard check = true) :
    ∃ w g, World.compile brickyard = .ok w ∧ Game.new w {} = .ok g ∧ check g = true := by
  unfold inBrickyard at h
  split at h
  · cases h
  · rename_i w hw
    split at h
    · cases h
    · rename_i g hg
      exact ⟨w, g, hw, hg, h⟩

theorem brickyard_begins :
    ∃ w g, World.compile brickyard = .ok w ∧ Game.new w {} = .ok g := by
  have hcheck : inBrickyard (fun _ => true) = true := by decide +kernel
  obtain ⟨w, g, hw, hg, -⟩ := exists_of_inBrickyard hcheck
  exact ⟨w, g, hw, hg⟩

/-! ## Placement -/

/-- **Placement.** A compiled world can be played, and whatever is called, in whatever order, in
the state that is reached no object has two holders, every object in a holder and every holder
exists, only containers hold objects, and nothing is inside itself. -/
theorem placement_invariant (h : World.compile a = .ok w) (settings : Settings) :
    ∃ g, Game.new w settings = .ok g ∧ ∀ calls : List Call,
      WellPlaced w (g.run calls).state ∧ (g.run calls).state.checkSinglePlacement = .ok () := by
  have hw := World.coherent_of_compile h
  obtain ⟨g, hg⟩ := new_ok hw settings
  refine ⟨g, hg, fun calls => ?_⟩
  obtain ⟨-, hplaced, -⟩ := reached hw hg calls
  have hworld : (g.run calls).world = w.configured settings := by
    rw [run_world, (new_eq_ok_iff.mp hg).1]
  rw [hworld] at hplaced
  exact ⟨hplaced.of_configured, checkSinglePlacement_eq_ok_iff.mpr hplaced.single⟩

/-- The brick goes from the yard through the player's hands into the box. -/
theorem brickyard_placement : ∃ w g, World.compile brickyard = .ok w ∧ Game.new w {} = .ok g ∧
    WellPlaced w (g.run [.start, .execute takeBrick, .execute putBrick]).state := by
  obtain ⟨w, -, hw, -⟩ := brickyard_begins
  obtain ⟨g, hg, hrun⟩ := placement_invariant hw {}
  exact ⟨w, g, hw, hg, (hrun _).1⟩

/-! ## All or nothing -/

/-- One more turn is one more, as long as there is room for it in the count. -/
theorem turns_of_turnCount {s t : GameState} (h : t.turnCount = s.turnCount + 1)
    (hroom : s.turns < counterLimit) : t.turns = s.turns + 1 := by
  unfold GameState.turns counterLimit at *
  rw [h, UInt32.toNat_add]
  exact Nat.mod_eq_of_lt (by simpa using Nat.succ_lt_succ hroom)

/-- **All or nothing.** Wherever a game has got to, a command that fails leaves it as it was, and
so does every command that takes no time; a refused command takes none. A command that takes a
turn adds one to the count of the turns, and so to their number as long as the count has room. -/
theorem execute_all_or_nothing (hg : Game.new w settings = .ok g) (calls : List Call)
    (command : Command) :
    match (g.run calls).execute command with
    | (.error _, after) => after = g.run calls
    | (.ok r, after) =>
      (r.success = false → r.takesTurn = false) ∧
      (r.takesTurn = false → after = g.run calls) ∧
      (r.takesTurn = true → after.state.turnCount = (g.run calls).state.turnCount + 1 ∧
        ((g.run calls).state.turns < counterLimit →
          after.state.turns = (g.run calls).state.turns + 1)) := by
  have hsettled := settled_run (settled_new hg) calls
  obtain ⟨log, hexecuted⟩ :=
    executed hsettled.placed hsettled.here (g.run calls).settings command
  unfold execute
  generalize (g.run calls).state.execute (g.run calls).world (g.run calls).settings command = out
    at hexecuted ⊢
  cases hexecuted with
  | failed cause => rfl
  | free r hturn =>
    refine ⟨fun _ => hturn, fun _ => rfl, fun h => ?_⟩
    rw [hturn] at h
    cases h
  | done r hturn hsuccess hmoved hturns hhere =>
    refine ⟨fun h => ?_, fun h => ?_, fun _ => ⟨hturns, turns_of_turnCount hturns⟩⟩
    · rw [hsuccess] at h
      cases h
    · rw [hturn] at h
      cases h

/-- Putting the brick away without having it is refused, and leaves the game as it was. -/
theorem brickyard_all_or_nothing : ∃ w g, World.compile brickyard = .ok w ∧
    Game.new w {} = .ok g ∧
    match (g.run [.start]).execute putBrick with
    | (.error _, after) => after = g.run [.start]
    | (.ok r, after) =>
      (r.success = false → r.takesTurn = false) ∧
      (r.takesTurn = false → after = g.run [.start]) ∧
      (r.takesTurn = true → after.state.turnCount = (g.run [.start]).state.turnCount + 1 ∧
        ((g.run [.start]).state.turns < counterLimit →
          after.state.turns = (g.run [.start]).state.turns + 1)) := by
  obtain ⟨w, g, hw, hg⟩ := brickyard_begins
  exact ⟨w, g, hw, hg, execute_all_or_nothing hg [.start] putBrick⟩

/-! ## No faults -/

theorem withFlags_ok (hs : Placed g.world g.state)
    (hhere : g.world.hasScene g.state.currentScene = true) (flags : FlagSet) :
    (g.withFlags flags).1 = .ok () := by
  have hsame : g.state.SameHolders { g.state with flags } := ⟨rfl, rfl, rfl⟩
  obtain ⟨t, ht⟩ := relit_ok (hsame.placed hs).known hhere
  unfold withFlags
  simp only [ht]

/-- **No faults.** A compiled world can be played, and wherever a game has got to, entering the
scene, every command, and setting or clearing every flag are answered without an error. The weight
of every object is found by any recursion that is as deep as there are containers. -/
theorem no_fault_in_play (h : World.compile a = .ok w) (settings : Settings) :
    ∃ g, Game.new w settings = .ok g ∧ ∀ calls : List Call,
      (∃ text, (g.run calls).start.1 = .ok text) ∧
      (∀ command, ∃ r, ((g.run calls).execute command).1 = .ok r) ∧
      (∀ flag, ((g.run calls).setFlag flag).1 = .ok ()) ∧
      (∀ flag, ((g.run calls).clearFlag flag).1 = .ok ()) ∧
      ∀ o, w.hasObject o = true → ∃ weight, ∀ depth, (g.run calls).state.containers.size ≤ depth →
        (g.run calls).state.weightWithin w depth o = .ok weight := by
  have hw := World.coherent_of_compile h
  obtain ⟨g, hg⟩ := new_ok hw settings
  refine ⟨g, hg, fun calls => ?_⟩
  obtain ⟨hcoherent, hplaced, hhere⟩ := reached hw hg calls
  refine ⟨enterScene_ok hcoherent hplaced.toPlaced hhere, fun command => ?_, fun flag => ?_,
    fun flag => ?_, fun o ho => ?_⟩
  · exact execute_answers hcoherent hplaced hhere _ command
  · exact withFlags_ok hplaced.toPlaced hhere _
  · exact withFlags_ok hplaced.toPlaced hhere _
  · have hworld : (g.run calls).world = w.configured settings := by
      rw [run_world, (new_eq_ok_iff.mp hg).1]
    rw [hworld] at hplaced
    exact ⟨_, fun depth hdepth => weightWithin_eq hplaced.of_configured ho hdepth⟩

/-- With the brick in the box, looking into the crate is answered. -/
theorem brickyard_no_fault : ∃ w g, World.compile brickyard = .ok w ∧ Game.new w {} = .ok g ∧
    ∃ r, ((g.run [.execute takeBrick, .execute putBrick]).execute
      { verb := "examine", object := some "crate" }).1 = .ok r := by
  obtain ⟨w, -, hw, -⟩ := brickyard_begins
  obtain ⟨g, hg, hrun⟩ := no_fault_in_play hw {}
  exact ⟨w, g, hw, hg, (hrun _).2.1 _⟩

end Game

end TextAdventure
