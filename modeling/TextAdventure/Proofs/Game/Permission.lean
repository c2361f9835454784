import TextAdventure.Proofs.Game.Light
import TextAdventure.Proofs.Play.Permission

/-!
# What has to be allowed in a game

Wherever a game has got to, a command about an object succeeds only if it was permitted
(`permitted_in_play`), and a command leads into another scene only if the player walks there in
the light or is sent there by an interaction (`scene_changes_licensed`).
-/

namespace TextAdventure

open Std GameState

/-- A dark passage and a vault in the light behind its door. The door is opened with a key, which
can be felt in the dark, and leads into the vault; from there a way goes back that is barred as
long as there is an alarm. -/
def gatehouse : Authored.World where
  game := { title := "Gatehouse", startScene := "passage" }
  scenes := [
    { id := "passage", name := "Passage", desc := { text := "A passage." } },
    { id := "vault", name := "Vault", lit := true, desc := { text := "A vault." },
      exits := [{ direction := "west", destination := "passage", requires := ["!alarm"] }] }]
  objects := [
    { id := "key", name := "key", desc := { text := "A key." }, location := .inventory,
      takeable := true, requiresLight := false },
    { id := "door", name := "door", desc := { text := "A door." }, location := .scene "passage",
      requiresLight := false,
      interactions := [
        { verb := "unlock", requires := ["!alarm"], requiresHeld := ["key"],
          targetScene := some "vault" }] }]

namespace Game

variable {a : Authored.World} {w : World}

/-- Unlocking the door with the key. -/
def unlockDoor : Command :=
  { verb := "unlock", object := some "door", target := some "key", preposition := some "with" }

/-- Going back from the vault. -/
def goWest : Command := { verb := "w" }

/-! ## Commands about objects -/

/-- **No effect without permission.** A compiled world can be played, and wherever a game has got
to, a command with a noun that is not for going succeeds only if, before it, the noun and the other
noun, if there is one, stood for objects that were present and in sight, the verb meant something
to the object, and the needs of the object's interaction for the verb, if it has one, were met. -/
theorem permitted_in_play (h : World.compile a = .ok w) (settings : Settings) :
    ∃ g, Game.new w settings = .ok g ∧
      ∀ (calls : List Call) (command : Command) (noun : String) (r : Response),
        Command.noun? command.object = some noun → command.goes = false →
        ((g.run calls).execute command).1 = .ok r → r.success = true →
        ∃ o, Permitted (g.run calls).world (g.run calls).state command o := by
  have hw := World.coherent_of_compile h
  obtain ⟨g, hg⟩ := new_ok hw settings
  refine ⟨g, hg, fun calls command noun r hnoun hgoes hr hsuccess => ?_⟩
  obtain ⟨hcoherent, hplaced, -⟩ := reached hw hg calls
  exact permitted_of_execute hcoherent hplaced.single hnoun hgoes hr hsuccess

/-- In the dark passage the door can be unlocked with the key. -/
theorem gatehouse_permitted : ∃ w g, World.compile gatehouse = .ok w ∧ Game.new w {} = .ok g ∧
    (g.run [.start]).state.hasLight (g.run [.start]).world = .ok false ∧
    ∃ o, Permitted (g.run [.start]).world (g.run [.start]).state unlockDoor o := by
  have hcheck : begun gatehouse (fun g =>
      !(g.run [.start]).state.flags.has .light &&
        match ((g.run [.start]).execute unlockDoor).1 with
        | .ok r => r.success
        | .error _ => false) = true := by
    decide +kernel
  obtain ⟨w, g, hw, hg, hflags⟩ := exists_of_begun hcheck
  rw [Bool.and_eq_true, Bool.not_eq_true'] at hflags
  obtain ⟨hdark, hresponse⟩ := hflags
  refine ⟨w, g, hw, hg, ?_, ?_⟩
  · rw [light_never_stale hg, hdark]
  · obtain ⟨g', hg', hpermitted⟩ := permitted_in_play hw {}
    rw [hg] at hg'
    obtain rfl := Except.ok.inj hg'
    cases hr : ((g.run [.start]).execute unlockDoor).1 with
    | error cause =>
      rw [hr] at hresponse
      cases hresponse
    | ok r =>
      rw [hr] at hresponse
      have hnoun : Command.noun? unlockDoor.object = some "door" := by decide +kernel
      have hgoes : unlockDoor.goes = false := by decide +kernel
      exact hpermitted [.start] unlockDoor "door" r hnoun hgoes hr hresponse

/-! ## Changes of scene -/

/-- **Changes of scene are licensed.** A compiled world can be played, and wherever a game has got
to, a command leads into another scene only if there was light and an exit of the scene, which the
command means and whose condition held, leads there, or if the command carries out an interaction
that leads there. In the dark only an interaction leads anywhere. -/
theorem scene_changes_licensed (h : World.compile a = .ok w) (settings : Settings) :
    ∃ g, Game.new w settings = .ok g ∧ ∀ (calls : List Call) (command : Command) (scene : Id),
      ((g.run calls).execute command).2.state.currentScene = scene →
      scene ≠ (g.run calls).state.currentScene →
      (Walks (g.run calls).world (g.run calls).state command scene ∨
        Sent (g.run calls).world (g.run calls).settings.messages (g.run calls).state command
          scene) ∧
      ((g.run calls).state.hasLight (g.run calls).world = .ok false →
        Sent (g.run calls).world (g.run calls).settings.messages (g.run calls).state command
          scene) := by
  obtain ⟨g, hg⟩ := new_ok (World.coherent_of_compile h) settings
  refine ⟨g, hg, fun calls command scene hscene hne => ?_⟩
  have hleads : Walks (g.run calls).world (g.run calls).state command scene ∨
      Sent (g.run calls).world (g.run calls).settings.messages (g.run calls).state command
        scene := by
    rw [← hscene] at hne ⊢
    exact leads_of_execute (g.run calls).settings hne
  refine ⟨hleads, fun hdark => hleads.resolve_left fun hwalks => ?_⟩
  -- nobody walks in the dark
  have hlight := hwalks.light
  rw [hdark] at hlight
  cases hlight

/-- From the dark passage the door leads into the vault, and from there the exit leads back. -/
theorem gatehouse_licensed : ∃ w g, World.compile gatehouse = .ok w ∧ Game.new w {} = .ok g ∧
    Sent (g.run [.start]).world (g.run [.start]).settings.messages (g.run [.start]).state
      unlockDoor "vault" ∧
    Walks (g.run [.start, .execute unlockDoor]).world (g.run [.start, .execute unlockDoor]).state
      goWest "passage" := by
  have hcheck : begun gatehouse (fun g =>
      !(g.run [.start]).state.flags.has .light &&
        decide ((g.run [.start]).state.currentScene = "passage") &&
        decide ((g.run [.start, .execute unlockDoor]).state.currentScene = "vault") &&
        decide ((g.run [.start, .execute unlockDoor, .execute goWest]).state.currentScene
          = "passage")) = true := by
    decide +kernel
  obtain ⟨w, g, hw, hg, hscenes⟩ := exists_of_begun hcheck
  simp only [Bool.and_eq_true, Bool.not_eq_true', decide_eq_true_iff] at hscenes
  obtain ⟨⟨⟨hdark, hpassage⟩, hvault⟩, hback⟩ := hscenes
  obtain ⟨g', hg', hlicensed⟩ := scene_changes_licensed hw {}
  rw [hg] at hg'
  obtain rfl := Except.ok.inj hg'
  refine ⟨w, g, hw, hg, ?_, ?_⟩
  · have hout := hlicensed [.start] unlockDoor "vault" hvault (by rw [hpassage]; decide)
    exact hout.2 (by rw [light_never_stale hg, hdark])
  · have hreturn := hlicensed [.start, .execute unlockDoor] goWest "passage" hback
      (by rw [hvault]; decide)
    -- a direction is no command about an object
    have hheading : goWest.heading? ≠ none := by decide +kernel
    exact hreturn.1.resolve_right fun hsent => hheading hsent.1

end Game

end TextAdventure
