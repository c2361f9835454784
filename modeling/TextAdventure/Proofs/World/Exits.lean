import TextAdventure.Play.Movement
import TextAdventure.Proofs.Verb
import TextAdventure.Proofs.World.Coherent

/-!
# Exits and their directions

The check of an authored world compares directions in small letters, and no two exits of a scene
may share one. The player's word for a direction is also trimmed, and its abbreviation written out.
So two exits can be told apart by the check and not by the player: of `north` and `n` only the
first can be taken by its direction (`crossroads_shadowed`).

* **directions** — in a compiled world looking for the direction of an exit finds the first exit of
  the scene in that direction, which is the exit itself exactly when none stands before it; all
  exits of a scene can be taken by their directions exactly when these differ once they are written
  out (`exits_by_direction`).
-/

namespace TextAdventure

open Std Text

/-! ## Directions -/

/-- A token that is more than blanks names a direction. -/
theorem normalizeDirection_ne_empty {token : String} (h : trim token ≠ "") :
    normalizeDirection token ≠ "" := by
  have hlower : lower (trim token) ≠ "" := by
    obtain ⟨c, rest, hchars⟩ :=
      List.exists_cons_of_ne_nil fun hnil => h (String.toList_eq_nil_iff.mp hnil)
    obtain ⟨d, hd, -⟩ : ∃ d ∈ lowerFrom [] (c :: rest), isBlank d = false :=
      exists_lowerFrom (isBlank_of_trim hchars)
    unfold lower lowerChars
    rw [hchars]
    intro hempty
    rw [← String.toList_inj, String.toList_ofList] at hempty
    rw [hempty] at hd
    cases hd
  unfold normalizeDirection
  split <;> first | decide | exact hlower

/-- Keys differ along a list exactly when no element has the key of one before it. -/
theorem nodup_map_iff_before {α β : Type} {key : α → β} {xs : List α} :
    (xs.map key).Nodup ↔
      ∀ before x after, xs = before ++ x :: after → ∀ y ∈ before, key y ≠ key x := by
  constructor
  · rintro h before x after rfl y hy
    rw [List.map_append, List.nodup_append] at h
    exact h.2.2 _ (List.mem_map_of_mem hy) _ (List.mem_cons_self ..)
  · intro h
    induction xs with
    | nil => exact List.nodup_nil
    | cons first rest ih =>
      rw [List.map_cons, List.nodup_cons]
      constructor
      · intro hmem
        obtain ⟨x, hx, hkey⟩ := List.mem_map.mp hmem
        obtain ⟨before, after, rfl⟩ := List.append_of_mem hx
        exact h (first :: before) x after rfl first (List.mem_cons_self ..) hkey.symm
      · refine ih fun before x after heq y hy => ?_
        exact h (first :: before) x after (by rw [heq]; rfl) y (List.mem_cons_of_mem _ hy)

namespace Authored

/-- The exits of a scene without faults have directions, which differ in small letters. -/
theorem directions_of_exitFaults {known : Known} {scene : Id} {taken : List String}
    {exits : List Exit} (h : exitFaults known scene taken exits = []) :
    (exits.map (lower ·.direction)).Nodup ∧
      ∀ e ∈ exits, trim e.direction ≠ "" ∧ lower e.direction ∉ taken := by
  induction exits generalizing taken with
  | nil => exact ⟨List.nodup_nil, nofun⟩
  | cons first rest ih =>
    unfold exitFaults at h
    simp only at h
    split at h
    · simp at h
    · rename_i hblank
      split at h
      · simp at h
      · rename_i htaken
        obtain ⟨hdistinct, hrest⟩ := ih (List.append_eq_nil_iff.mp h).2
        rw [String.isEmpty_iff] at hblank
        refine ⟨?_, fun e he => ?_⟩
        · rw [List.map_cons, List.nodup_cons]
          refine ⟨fun hmem => ?_, hdistinct⟩
          obtain ⟨e, he, heq⟩ := List.mem_map.mp hmem
          exact (hrest e he).2 (heq ▸ List.mem_cons_self ..)
        · rcases List.mem_cons.mp he with rfl | he
          · exact ⟨hblank, htaken⟩
          · exact ⟨(hrest e he).1, fun hmem => (hrest e he).2 (List.mem_cons_of_mem _ hmem)⟩

end Authored

namespace World

variable {a : Authored.World} {w : World} {id : Id} {sc : Scene} {e : Exit}

/-- Resolving keeps the directions of exits. -/
theorem directions_of_resolved {context : String} {written : List Authored.Exit}
    {exits : List Exit} (h : written.mapM (Compile.exit a context) = .ok exits) :
    exits.map (·.direction) = written.map (·.direction) := by
  have hall := forall₂_of_mapM h
  clear h
  induction hall with
  | nil => rfl
  | cons hexit _ ih => rw [List.map_cons, List.map_cons, ih, (Compile.exit_eq_ok hexit).1]

/-- So the exits of a compiled world have directions, which differ in small letters. -/
theorem directions_of_compile (h : World.compile a = .ok w) (hsc : w.scenes[id]? = some sc) :
    (sc.exits.map (lower ·.direction)).Nodup ∧ ∀ e ∈ sc.exits, trim e.direction ≠ "" := by
  obtain ⟨hfaults, hresolved⟩ := compile_eq_ok h
  obtain ⟨-, written, hmem, hok⟩ := scene_of_resolved hresolved hsc
  have hkept := directions_of_resolved (Compile.scene_eq_ok hok).2
  have hscene := (Authored.World.faultless hfaults).scene written hmem
  unfold Authored.sceneFaults at hscene
  obtain ⟨hdistinct, hdirections⟩ :=
    Authored.directions_of_exitFaults (List.append_eq_nil_iff.mp hscene).2
  constructor
  · have hmap : sc.exits.map (lower ·.direction) = written.exits.map (lower ·.direction) := by
      simpa only [List.map_map, Function.comp_def] using congrArg (List.map lower) hkept
    rw [hmap]
    exact hdistinct
  · intro e he
    have hdirection := List.mem_map_of_mem (f := (·.direction)) he
    rw [hkept] at hdirection
    obtain ⟨e', he', heq⟩ := List.mem_map.mp hdirection
    rw [← heq]
    exact (hdirections e' he').1

/-! ## Looking for an exit -/

/-- The first exit in the direction of a token is the one that is found. -/
theorem findExit_of_find? {token : String} (hsc : w.scenes[id]? = some sc)
    (htoken : trim token ≠ "") (hfirst : sc.exits.find? (normalizeDirection ·.direction ==
      normalizeDirection token) = some e) : w.findExit id token = .ok (some e) := by
  have hwanted : ¬(normalizeDirection token).isEmpty = true := by
    rw [String.isEmpty_iff]
    exact normalizeDirection_ne_empty htoken
  unfold findExit
  simp only [scene_eq_ok.mpr hsc, ok_bind, if_neg hwanted, hfirst]
  rfl

/-- Looking for the direction of an exit finds an exit in that direction: the exit itself, or one
that stands before it. -/
theorem exists_findExit (hsc : w.scenes[id]? = some sc) {before after : List Exit}
    (hexits : sc.exits = before ++ e :: after) (hdirection : trim e.direction ≠ "") :
    ∃ found, w.findExit id e.direction = .ok (some found) ∧
      normalizeDirection found.direction = normalizeDirection e.direction ∧
      (found ∈ before ∨ found = e ∧
        ∀ e' ∈ before, normalizeDirection e'.direction ≠ normalizeDirection e.direction) := by
  have hfind : ∀ found, (before.find? fun e' => normalizeDirection e'.direction ==
        normalizeDirection e.direction).or (some e) = some found →
      w.findExit id e.direction = .ok (some found) := by
    intro found hfound
    refine findExit_of_find? hsc hdirection ?_
    rw [hexits, List.find?_append, List.find?_cons_of_pos (by simp)]
    exact hfound
  cases hfirst : before.find? fun e' =>
      normalizeDirection e'.direction == normalizeDirection e.direction with
  | none =>
    refine ⟨e, hfind e (by rw [hfirst]; rfl), rfl, .inr ⟨rfl, fun e' he' => ?_⟩⟩
    simpa using List.find?_eq_none.mp hfirst e' he'
  | some found =>
    have hsame := List.find?_some hfirst
    rw [beq_iff_eq] at hsame
    exact ⟨found, hfind found (by rw [hfirst]; rfl), hsame, .inl (List.mem_of_find?_eq_some hfirst)⟩

/-- An exit is found by its direction exactly when no exit before it is in that direction. -/
theorem findExit_eq_self_iff (h : World.compile a = .ok w) (hsc : w.scenes[id]? = some sc)
    {before after : List Exit} (hexits : sc.exits = before ++ e :: after) :
    w.findExit id e.direction = .ok (some e) ↔
      ∀ e' ∈ before, normalizeDirection e'.direction ≠ normalizeDirection e.direction := by
  obtain ⟨hdistinct, hdirections⟩ := directions_of_compile h hsc
  obtain ⟨found, hfound, hsame, hbefore | ⟨rfl, hnone⟩⟩ :=
    exists_findExit hsc hexits (hdirections e (by simp [hexits]))
  · refine iff_of_false (fun hself => ?_) fun hnone => hnone found hbefore hsame
    -- the exit before would be the same, and so written in the same direction
    obtain rfl : found = e := Option.some.inj (Except.ok.inj (hfound.symm.trans hself))
    exact nodup_map_iff_before.mp hdistinct before found after hexits found hbefore rfl
  · exact iff_of_true hfound hnone

/-- **Exits are taken by their directions.** In every scene of a compiled world the directions of
the exits differ in small letters, and looking for the direction of an exit finds one in that
direction. It is the exit itself exactly when no exit before it is in the same direction once
abbreviations are written out. So all exits can be taken by their directions exactly when these
differ once they are written out, and they do where they are written out already. -/
theorem exits_by_direction (h : World.compile a = .ok w) :
    ∀ (id : Id) (sc : Scene), w.scenes[id]? = some sc →
      (sc.exits.map (lower ·.direction)).Nodup ∧
      (∀ e ∈ sc.exits, ∃ e' ∈ sc.exits, w.findExit id e.direction = .ok (some e') ∧
        normalizeDirection e'.direction = normalizeDirection e.direction) ∧
      (∀ before e after, sc.exits = before ++ e :: after →
        (w.findExit id e.direction = .ok (some e) ↔
          ∀ e' ∈ before, normalizeDirection e'.direction ≠ normalizeDirection e.direction)) ∧
      ((∀ e ∈ sc.exits, w.findExit id e.direction = .ok (some e)) ↔
        (sc.exits.map (normalizeDirection ·.direction)).Nodup) ∧
      ((∀ e ∈ sc.exits, normalizeDirection e.direction = lower e.direction) →
        ∀ e ∈ sc.exits, w.findExit id e.direction = .ok (some e)) := by
  intro id sc hsc
  obtain ⟨hdistinct, hdirections⟩ := directions_of_compile h hsc
  have hself : ∀ before e after, sc.exits = before ++ e :: after →
      (w.findExit id e.direction = .ok (some e) ↔
        ∀ e' ∈ before, normalizeDirection e'.direction ≠ normalizeDirection e.direction) :=
    fun _ _ _ hexits => findExit_eq_self_iff h hsc hexits
  have hall : (∀ e ∈ sc.exits, w.findExit id e.direction = .ok (some e)) ↔
      (sc.exits.map (normalizeDirection ·.direction)).Nodup := by
    rw [nodup_map_iff_before]
    constructor
    · intro htaken before e after hexits
      exact (hself before e after hexits).mp (htaken e (by simp [hexits]))
    · intro hbefore e he
      obtain ⟨before, after, hexits⟩ := List.append_of_mem he
      exact (hself before e after hexits).mpr (hbefore before e after hexits)
  refine ⟨hdistinct, fun e he => ?_, hself, hall, fun hwritten => hall.mpr ?_⟩
  · obtain ⟨before, after, hexits⟩ := List.append_of_mem he
    obtain ⟨found, hfound, hsame, hbefore | ⟨rfl, -⟩⟩ :=
      exists_findExit hsc hexits (hdirections e he)
    · exact ⟨found, hexits ▸ List.mem_append_left _ hbefore, hfound, hsame⟩
    · exact ⟨found, he, hfound, hsame⟩
  · rw [List.map_congr_left hwritten]
    exact hdistinct

end World

/-! ## A crossroads -/

/-- A crossroads with an exit to the north and another one by the abbreviation. -/
def crossroads : Authored.World where
  game := { title := "Crossroads", startScene := "crossroads" }
  scenes := [
    { id := "crossroads", name := "Crossroads", lit := true, desc := { text := "A crossroads." },
      exits := [{ direction := "north", destination := "hill" },
        { direction := "n", destination := "mill" }] },
    { id := "hill", name := "Hill", lit := true, desc := { text := "A hill." } },
    { id := "mill", name := "Mill", lit := true, desc := { text := "A mill." } }]

namespace World

/-- What holds of the crossroads when it is compiled. -/
def atCrossroads (check : World → Scene → Bool) : Bool :=
  match World.compile crossroads with
  | .error _ => false
  | .ok w => (w.scenes["crossroads"]?).any (check w)

theorem exists_of_atCrossroads {check : World → Scene → Bool} (h : atCrossroads check = true) :
    ∃ w sc, World.compile crossroads = .ok w ∧ w.scenes["crossroads"]? = some sc ∧
      check w sc = true := by
  unfold atCrossroads at h
  split at h
  · cases h
  · rename_i w hw
    obtain ⟨sc, hsc, hcheck⟩ := (Option.any_eq_true _ _).mp h
    exact ⟨w, sc, hw, hsc, hcheck⟩

/-- At the crossroads the first exit is found by its direction. -/
theorem crossroads_first : ∃ w sc first second, World.compile crossroads = .ok w ∧
    w.scenes["crossroads"]? = some sc ∧ sc.exits = [first, second] ∧ first.direction = "north" ∧
    w.findExit "crossroads" "north" = .ok (some first) := by
  have hcheck : atCrossroads (fun _ sc =>
      decide (sc.exits.map (·.direction) = ["north", "n"])) = true := by
    decide +kernel
  obtain ⟨w, sc, hw, hsc, hexits⟩ := exists_of_atCrossroads hcheck
  rw [decide_eq_true_iff] at hexits
  obtain ⟨first, rest, hcons, hfirst, hrest⟩ := List.map_eq_cons_iff.mp hexits
  obtain ⟨second, rest, rfl, -, hrest⟩ := List.map_eq_cons_iff.mp hrest
  obtain rfl := List.map_eq_nil_iff.mp hrest
  obtain ⟨-, -, hself, -⟩ := exits_by_direction hw "crossroads" sc hsc
  have hfound := (hself [] first [second] hcons).mpr nofun
  rw [hfirst] at hfound
  exact ⟨w, sc, first, second, hw, hsc, hcons, hfirst, hfound⟩

/-- The second exit, to the mill, is not found by its direction: that leads to the hill. -/
theorem crossroads_shadowed : ∃ w sc, World.compile crossroads = .ok w ∧
    w.scenes["crossroads"]? = some sc ∧
    sc.exits.map (fun e => (e.direction, e.destination)) = [("north", "hill"), ("n", "mill")] ∧
    ∃ e, w.findExit "crossroads" "n" = .ok (some e) ∧ e.destination = "hill" := by
  have hcheck : atCrossroads (fun w sc =>
      decide (sc.exits.map (fun e => (e.direction, e.destination)) =
        [("north", "hill"), ("n", "mill")]) &&
      ((w.findExit "crossroads" "n").toOption.bind id).any (·.destination == "hill")) = true := by
    decide +kernel
  obtain ⟨w, sc, hw, hsc, hexits⟩ := exists_of_atCrossroads hcheck
  rw [Bool.and_eq_true, decide_eq_true_iff] at hexits
  obtain ⟨hexits, hfound⟩ := hexits
  obtain ⟨e, he, hdestination⟩ := (Option.any_eq_true _ _).mp hfound
  obtain ⟨found, hfound, rfl⟩ := Option.bind_eq_some_iff.mp he
  exact ⟨w, sc, hw, hsc, hexits, e, toOption_eq_some.mp hfound, beq_iff_eq.mp hdestination⟩

end World

end TextAdventure
