import TextAdventure.Proofs.Game.Light
import TextAdventure.Proofs.Snapshot
import TextAdventure.Proofs.World.Mentions
import TextAdventure.Proofs.World.Texts

/-!
# Mentioned flags in saved games

Whatever flag a compiled world mentions passes the check of a snapshot. Its text is another matter:
it is read without the blanks it ends with, and passes exactly when what the id names without them
exists (`mentions_restored`). In a hallway with a door whose id ends in a blank no game can be
loaded once it has been saved (`hallway_unloadable`).
-/

namespace TextAdventure

open Std Text

namespace World

variable {a : Authored.World} {w : World} {f : Flag} {kind : String} {id : Id}

/-! ## Texts of mentioned flags -/

/-- What is left of the id of the flag without the blanks it ends with is nothing, or something that
exists. -/
def Rereads (w : World) : Flag → Prop
  | .objectOpen id | .objectLocked id | .objectRevealed id | .lightOn id | .lightDead id =>
    trimEnd id = "" ∨ w.hasObject (trimEnd id) = true
  | .sceneVisited id | .exitScored id => trimEnd id = "" ∨ w.hasScene (trimEnd id) = true
  | .light | .interactionScored _ _ | .achievement _ | .custom _ => True

/-- What the text of a flag of a kind is read as is known when the id is known without the blanks
at its end. -/
theorem knows_ofText_text_iff (h : f.parts? = some (kind, id)) :
    w.Knows (Flag.ofText f.text) ↔ w.Rereads f := by
  by_cases hid : trimEnd id = ""
  · rw [Flag.ofText_text_of_blank h hid]
    cases f <;> cases h <;> simp [Knows, Rereads, hid]
  · have hread := Flag.ofKind?_eq_some_iff.mpr (Flag.parts?_ofText_text h hid)
    cases f <;> cases h <;> rw [← Option.some.inj hread] <;> simp [Knows, Rereads, hid]

/-- A flag without an id of its own that has a name is read back from its text. -/
theorem ofText_text_of_named (hf : a.Names f) (h : f.parts? = none) : Flag.ofText f.text = f := by
  obtain ⟨context, name, -, rfl⟩ := hf
  rcases Flag.resolve_cases (fun id => a.objects.any (·.id == id))
    (fun id => a.scenes.any (·.id == id)) name with hread | hworded
  · have hflag : a.flag name = Flag.ofText name := hread
    rw [hflag, Flag.ofText_text_ofText]
  · have hworded : (a.flag name).isWorded = true := hworded
    generalize a.flag name = f at h hworded
    cases f with
    | light => decide +kernel
    | interactionScored _ _ | custom _ => cases hworded
    | _ => cases h

/-- A flag with a name without faults is known again once it has been written and read exactly when
its id is known without the blanks at its end. -/
theorem knows_reread_iff (h : World.ofAuthored a = .ok w) (hf : a.Names f) :
    w.Knows (Flag.ofText f.text) ↔ w.Rereads f := by
  cases hparts : f.parts? with
  | some parts => exact knows_ofText_text_iff hparts
  | none =>
    rw [ofText_text_of_named hf hparts]
    refine iff_of_true (knows_of_named h hf) ?_
    cases f with
    | light | interactionScored _ _ | custom _ => trivial
    | _ => cases hparts

/-- Where no id ends in a blank every known flag is known again. -/
theorem rereads_of_knows (hids : ∀ id, w.hasObject id = true ∨ w.hasScene id = true →
    trimEnd id = id) (hf : w.Knows f) : w.Rereads f := by
  cases f with
  | light | interactionScored _ _ | achievement _ | custom _ => trivial
  | sceneVisited id | exitScored id =>
    refine .inr ?_
    rw [hids id (.inr hf)]
    exact hf
  | _ id =>
    refine .inr ?_
    rw [hids id (.inl hf)]
    exact hf

end World

/-! ## Saved games -/

namespace Snapshot

variable {w : World} {snap : Snapshot} {f : Flag} {held : Bool}

/-- The snapshot with the flag written into it as one that holds or does not hold. -/
def noting (snap : Snapshot) (f : Flag) (held : Bool) : Snapshot :=
  { snap with flags := snap.flags.insert f.text held }

theorem forall_mem_noting_iff {P : String → Prop} :
    (∀ text ∈ (snap.noting f held).flags, P text) ↔ (∀ text ∈ snap.flags, P text) ∧ P f.text := by
  simp only [noting, ExtTreeMap.mem_insert, LawfulEqCmp.compare_eq_iff_eq]
  constructor
  · exact fun h => ⟨fun text htext => h text (.inr htext), h _ (.inl rfl)⟩
  · rintro ⟨hall, hself⟩ text (rfl | htext)
    · exact hself
    · exact hall text htext

/-- Noting a flag asks for nothing but that it is known when it is read back. -/
theorem consistent_noting_iff : (snap.noting f held).Consistent w ↔
    snap.Consistent w ∧ w.Knows (Flag.ofText f.text) := by
  have hflags := @forall_mem_noting_iff snap f held fun text => w.Knows (Flag.ofText text)
  constructor
  · intro h
    exact ⟨{ h with flags := (hflags.mp h.flags).1 }, (hflags.mp h.flags).2⟩
  · rintro ⟨h, hself⟩
    exact { h with flags := hflags.mpr ⟨h.flags, hself⟩ }

/-- A snapshot is taken back exactly when it fits the world. -/
theorem restore_ok_iff : (∃ s, snap.restore w = .ok s) ↔ snap.Consistent w :=
  ⟨fun ⟨_, h⟩ => (restore_eq_ok_iff.mp h).1, Consistent.restore_ok⟩

end Snapshot

namespace World

variable {a : Authored.World} {w : World} {f : Flag}

/-- **Mentioned flags and saved games.** Every flag that a compiled world mentions passes the check
of a snapshot: what it is about exists. Written into a snapshot that can be restored, on or off, it
leaves it so exactly when what is left of its id without the blanks at the end is nothing or
exists; and where no id of the world ends in a blank, that is so for every mentioned flag. -/
theorem mentions_restored (h : World.compile a = .ok w) (hf : w.Mentions f) :
    Snapshot.checkFlag w f = .ok () ∧
    (∀ snap held, (∃ s, (Snapshot.noting snap f held).restore w = .ok s) ↔
      (∃ s, snap.restore w = .ok s) ∧ w.Rereads f) ∧
    ((∀ id, w.hasObject id = true ∨ w.hasScene id = true → trimEnd id = id) → w.Rereads f) := by
  have hresolved := (compile_eq_ok h).2
  have hnamed := named_of_mentions h hf
  have hknown := knows_of_named hresolved hnamed
  refine ⟨Snapshot.checkFlag_eq_ok_iff.mpr hknown, fun snap held => ?_,
    fun hids => rereads_of_knows hids hknown⟩
  rw [Snapshot.restore_ok_iff, Snapshot.restore_ok_iff, Snapshot.consistent_noting_iff,
    knows_reread_iff hresolved hnamed]

end World

/-! ## A hallway -/

/-- A hallway with an open door whose id ends in a blank, and a text for return visits. -/
def hallway : Authored.World where
  game := { title := "Hallway", startScene := "hall", initialFlags := ["door Open"] }
  scenes := [
    { id := "hall", name := "Hall", lit := true,
      desc := {
        text := "A hall."
        overrides := [{ when := ["hall_visited"], text := "The hall again." }] } }]
  objects := [
    { id := "door ", name := "door", desc := { text := "A door." }, location := .scene "hall" }]

/-- A snapshot in the hallway in which nothing has been noted. -/
def Snapshot.inHallway : Snapshot := { (default : Snapshot) with currentScene := "hall" }

namespace World

/-- Both flags of the hallway are about things that exist. A visit can be noted in a snapshot, but
one that has the door noted as open is not restored. -/
theorem hallway_mentions : ∃ w, World.compile hallway = .ok w ∧
    w.Mentions (.sceneVisited "hall") ∧ w.Mentions (.objectOpen "door ") ∧
    Snapshot.checkFlag w (.sceneVisited "hall") = .ok () ∧
    Snapshot.checkFlag w (.objectOpen "door ") = .ok () ∧
    (∃ s, (Snapshot.inHallway.noting (.sceneVisited "hall") true).restore w = .ok s) ∧
    ¬∃ s, (Snapshot.inHallway.noting (.objectOpen "door ") true).restore w = .ok s := by
  have hcheck : (World.compile hallway).toOption.any (fun w =>
      decide (.objectOpen "door " ∈ w.initialFlags) &&
      (w.scenes["hall"]?).any (fun sc => decide (sc.description.Mentions (.sceneVisited "hall"))) &&
      w.hasScene "hall" && !w.hasObject "door" &&
      (Snapshot.inHallway.restore w).isOk) = true := by
    decide +kernel
  obtain ⟨w, hw, hcheck⟩ := (Option.any_eq_true _ _).mp hcheck
  have hw := toOption_eq_some.mp hw
  simp only [Bool.and_eq_true, decide_eq_true_iff, Bool.not_eq_true'] at hcheck
  obtain ⟨⟨⟨⟨hinitial, hscene⟩, hhall⟩, hdoor⟩, hrestored⟩ := hcheck
  obtain ⟨sc, hsc, hvisited⟩ := (Option.any_eq_true _ _).mp hscene
  have hvisit : w.Mentions (.sceneVisited "hall") := .scene hsc (of_decide_eq_true hvisited)
  have hopen : w.Mentions (.objectOpen "door ") := .initial hinitial
  obtain ⟨hknown, hnoted, -⟩ := mentions_restored hw hvisit
  obtain ⟨hknown', hnoted', -⟩ := mentions_restored hw hopen
  have htrim : trimEnd "hall" = "hall" ∧ trimEnd "door " = "door" := by decide +kernel
  refine ⟨w, hw, hvisit, hopen, hknown, hknown', (hnoted _ _).mpr ⟨isOk_iff.mp hrestored, .inr ?_⟩,
    fun h => ?_⟩
  · rw [htrim.1]
    exact hhall
  · obtain ⟨-, hblank | hobject⟩ := (hnoted' _ _).mp h
    · rw [htrim.2] at hblank
      exact absurd hblank (by decide)
    · rw [htrim.2, hdoor] at hobject
      cases hobject

end World

namespace Game

/-- A new game in the hallway cannot be loaded once it has been saved: its flag for the open door
is read back as one about an object that does not exist. -/
theorem hallway_unloadable : ∃ w g, World.compile hallway = .ok w ∧ Game.new w {} = .ok g ∧
    w.initialFlags = [.objectOpen "door "] ∧ w.hasObject "door " = true ∧
    (g.restore g.snapshot).1 =
      .error (.snapshot (.unknownObject "flag 'open:door'" "door")) := by
  have hcheck : begun hallway (fun g =>
      decide (g.world.initialFlags = [.objectOpen "door "]) && g.world.hasObject "door " &&
      decide ((g.restore g.snapshot).1 =
        .error (.snapshot (.unknownObject "flag 'open:door'" "door")))) = true := by
    decide +kernel
  obtain ⟨w, g, hw, hg, hgame⟩ := exists_of_begun hcheck
  simp only [Bool.and_eq_true, decide_eq_true_iff] at hgame
  obtain ⟨⟨hinitial, hdoor⟩, hrestored⟩ := hgame
  have hworld := (new_eq_ok_iff.mp hg).1
  rw [hworld] at hinitial hdoor
  exact ⟨w, g, hw, hg, hinitial, hdoor, hrestored⟩

end Game

end TextAdventure
