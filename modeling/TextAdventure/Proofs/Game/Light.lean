import TextAdventure.Proofs.Game.Guarantees
import TextAdventure.Proofs.Play.Light
import TextAdventure.Proofs.Play.Turns

/-!
# The flag for light

Every call of a game ends by bringing the light up to date or leaves the state as it was, so that
the flag for light is never stale (`light_never_stale`).
-/

namespace TextAdventure

open Std GameState

/-! ## A dark world -/

/-- A stair in the light and a dark cellar below it, a lamp that lasts for three turns, and a
chest with a coin that is found by searching. -/
def cellar : Authored.World where
  game := { title := "Cellar", startScene := "stair", initialFlags := ["lampOn"] }
  scenes := [
    { id := "stair", name := "Stair", lit := true, desc := { text := "A stair." },
      exits := [{ direction := "down", destination := "cellar", score := 3 }] },
    { id := "cellar", name := "Cellar", desc := { text := "A cellar." },
      exits := [{ direction := "up", destination := "stair" }] }]
  objects := [
    { id := "lamp", name := "lamp", desc := { text := "A lamp." }, location := .inventory,
      takeable := true, lightSource := some { batteryLife := some 3 } },
    { id := "chest", name := "chest", desc := { text := "A chest." }, location := .scene "cellar",
      container := some { capacity := 5, isOpen := true },
      interactions := [
        { verb := "search", score := 5, reveals := ["coin"],
          transfers := [{ object := "coin", destination := .inventory }] }] },
    { id := "coin", name := "coin", desc := { text := "A coin." },
      location := .container "chest", takeable := true, visibleOnEntry := false }]

namespace Game

/-- Going down. -/
def goDown : Command := { verb := "go", object := some "down" }

/-- Searching the chest. -/
def searchChest : Command := { verb := "search", object := some "chest" }

/-- Going down from the stair and searching the chest. -/
def search : List Call := [.start, .execute goDown, .execute searchChest]

/-- A check of the new game in a written world. -/
def begun (a : Authored.World) (check : Game → Bool) (settings : Settings := {}) : Bool :=
  match World.compile a with
  | .error _ => false
  | .ok w =>
    match Game.new w settings with
    | .error _ => false
    | .ok g => check g

theorem exists_of_begun {a : Authored.World} {check : Game → Bool} {settings : Settings}
    (h : begun a check settings = true) :
    ∃ w g, World.compile a = .ok w ∧ Game.new w settings = .ok g ∧ check g = true := by
  unfold begun at h
  split at h
  · cases h
  · rename_i w hw
    split at h
    · cases h
    · rename_i g hg
      exact ⟨w, g, hw, hg, h⟩

/-! ## Games -/

variable {w : World} {g : Game} {settings : Settings}

theorem fresh_new (h : Game.new w settings = .ok g) : g.state.Fresh g.world := by
  obtain ⟨-, -, s, -, hs⟩ := new_eq_ok_iff.mp h
  exact fresh_of_relit hs

/-- Whatever flags are set from outside, the light is brought up to date. -/
theorem fresh_withFlags (hg : g.Settled) (flags : FlagSet) :
    (g.withFlags flags).2.state.Fresh g.world := by
  have hsame : SameHolders g.state { g.state with flags } := ⟨rfl, rfl, rfl⟩
  obtain ⟨t, ht⟩ := relit_ok (hsame.placed hg.placed).known hg.here
  unfold withFlags
  simp only [ht]
  exact fresh_of_relit ht

theorem fresh_restore {s : GameState} {snap : Snapshot} (h : snap.restore w = .ok s) :
    s.Fresh w :=
  fresh_of_relit (Snapshot.restore_eq_ok_iff.mp h).2

/-- **Every call** leaves the flag for light fresh. -/
theorem fresh_call (hg : g.Settled) (h : g.state.Fresh g.world) (c : Call) :
    (g.call c).state.Fresh g.world := by
  cases c with
  | start => exact h.enterScene hg.placed g.state.currentScene
  | execute command =>
    rcases execute_cases hg.placed hg.here g.settings command with hsame | ⟨t, events, -, htick⟩
    · show (g.state.execute g.world g.settings command).2.Fresh g.world
      rw [hsame]
      exact h
    · exact fresh_of_tick htick
  | setFlag flag => exact fresh_withFlags hg _
  | clearFlag flag => exact fresh_withFlags hg _
  | restore snap =>
    show (g.restore snap).2.state.Fresh g.world
    unfold restore
    split
    · rename_i s hs
      exact fresh_restore hs
    · exact h

/-- **The flag for light is never stale.** In any world in which a game can begin, whatever is
called, in whatever order, and whatever is answered, the flag holds exactly when there is light. -/
theorem light_never_stale (hg : Game.new w settings = .ok g) (calls : List Call) :
    (g.run calls).state.hasLight (g.run calls).world =
      .ok ((g.run calls).state.flags.has .light) := by
  have hrun := run_invariant (P := fun g => g.Settled ∧ g.state.Fresh g.world)
    (fun g c h => ⟨settled_call h.1 c, (call_world c).symm ▸ fresh_call h.1 h.2 c⟩)
    ⟨settled_new hg, fresh_new hg⟩ calls
  exact hrun.2

/-- In the cellar the lamp gives light for three turns, and none after that. -/
theorem cellar_light : ∃ w g, World.compile cellar = .ok w ∧ Game.new w {} = .ok g ∧
    (g.run search).state.hasLight (g.run search).world = .ok true ∧
    (g.run (search ++ search)).state.hasLight (g.run (search ++ search)).world = .ok false := by
  have hcheck : begun cellar (fun g => (g.run search).state.flags.has .light &&
      !(g.run (search ++ search)).state.flags.has .light) = true := by
    decide +kernel
  obtain ⟨w, g, hw, hg, hflags⟩ := exists_of_begun hcheck
  obtain ⟨hon, hoff⟩ : (g.run search).state.flags.has .light = true ∧
      (g.run (search ++ search)).state.flags.has .light = false := by simpa using hflags
  refine ⟨w, g, hw, hg, ?_, ?_⟩
  · rw [light_never_stale hg, hon]
  · rw [light_never_stale hg, hoff]

end Game

end TextAdventure
