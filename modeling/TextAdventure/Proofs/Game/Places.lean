import TextAdventure.Proofs.Game.Light
import TextAdventure.Proofs.Play.Handling

/-!
# Objects in their places

Wherever a game has got to, a command moves one object by hand at most, and it moves by hand only
what can be reached; everything else that changes its place is named by a transfer of the
interaction that the command carries out. So what is inside a closed container is moved by
transfers only (`orderly_in_play`).
-/

namespace TextAdventure

open Std Relation GameState

variable {w : World} {s t : GameState} {messages : Messages} {command : Command}

/-- What may happen to the places of the objects between two states when a command is given. -/
structure Orderly (w : World) (messages : Messages) (s : GameState) (command : Command)
    (t : GameState) : Prop where
  /-- An object that changes its place is transferred, or moved by hand to where it is then. -/
  accounted : ∀ x, t.locationOf x ≠ s.locationOf x →
    Transferred w messages s command x ∨ ByHand w messages s command x (t.locationOf x)
  /-- An object in a closed container that changes its place is transferred. -/
  undisturbed : ∀ c x, s.isOpen c = false → TransGen s.Inside x c →
    t.locationOf x ≠ s.locationOf x → Transferred w messages s command x
  /-- What is inside a closed container, at any depth, is carried in and out by transfers. -/
  closed : ∀ c x, s.isOpen c = false → ¬ (TransGen t.Inside x c ↔ TransGen s.Inside x c) →
    Carried w messages s command t x c

theorem Accounted.orderly (h : Accounted w messages s command t) (hs : s.OneHolder)
    (ht : t.OneHolder) : Orderly w messages s command t where
  accounted x hx := (h x).resolve_left hx
  undisturbed c x hclosed hin hx := by
    rcases (h x).resolve_left hx with htransferred | hbyHand
    · exact htransferred
    · exact (hbyHand.not_inside hclosed hin).elim
  closed c x hclosed hne := h.closed_contents hs ht hclosed hne

namespace Game

variable {a : Authored.World} {settings : Settings}

/-- **Objects move only when they may.** A compiled world can be played, and wherever a game has
got to, a command moves only what it names and can reach by hand, and what the transfers of its
interaction name; closed containers are changed by transfers only. -/
theorem orderly_in_play (h : World.compile a = .ok w) (settings : Settings) :
    ∃ g, Game.new w settings = .ok g ∧ ∀ (calls : List Call) (command : Command),
      Orderly (g.run calls).world (g.run calls).settings.messages (g.run calls).state command
        ((g.run calls).execute command).2.state := by
  have hw := World.coherent_of_compile h
  obtain ⟨g, hg⟩ := new_ok hw settings
  refine ⟨g, hg, fun calls command => ?_⟩
  obtain ⟨hcoherent, hplaced, hhere⟩ := reached hw hg calls
  have haccounted : Accounted (g.run calls).world (g.run calls).settings.messages
      (g.run calls).state command ((g.run calls).execute command).2.state :=
    locationOf_execute hcoherent hplaced.toPlaced hhere (g.run calls).settings command
  have hafter := settled_call (settled_run (settled_new hg) calls) (.execute command)
  exact haccounted.orderly hplaced.single hafter.placed.single

/-- Searching the chest in the cellar takes the coin out of it by a transfer. -/
theorem cellar_orderly : ∃ w g, World.compile cellar = .ok w ∧ Game.new w {} = .ok g ∧
    ((g.run search).state.locationOf "coin" = .inventory) ∧
    Transferred (g.run [.start, .execute goDown]).world
      (g.run [.start, .execute goDown]).settings.messages
      (g.run [.start, .execute goDown]).state searchChest "coin" := by
  have hcheck : begun cellar (fun g =>
      decide ((g.run [.start, .execute goDown]).state.locationOf "coin" = .container "chest") &&
        decide ((g.run search).state.locationOf "coin" = .inventory)) = true := by
    decide +kernel
  obtain ⟨w, g, hw, hg, hplaces⟩ := exists_of_begun hcheck
  rw [Bool.and_eq_true, decide_eq_true_iff, decide_eq_true_iff] at hplaces
  obtain ⟨hbefore, hafter⟩ := hplaces
  refine ⟨w, g, hw, hg, hafter, ?_⟩
  obtain ⟨g', hg', horderly⟩ := orderly_in_play hw {}
  rw [hg] at hg'
  obtain rfl := Except.ok.inj hg'
  have hsearch : ((g.run [.start, .execute goDown]).execute searchChest).2 = g.run search := rfl
  have hmoved := (horderly [.start, .execute goDown] searchChest).accounted "coin"
  rw [hsearch, hbefore, hafter] at hmoved
  rcases hmoved Place.noConfusion with htransferred | hbyHand
  · exact htransferred
  · -- searching is none of the verbs that move things by hand
    have hverb : Verb.ofText searchChest.verb = .other "search" := by decide +kernel
    have hbrought := hbyHand.brought
    rw [hverb] at hbrought
    simp at hbrought

end Game

end TextAdventure
