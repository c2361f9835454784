import TextAdventure.Proofs.World.Acceptance
import TextAdventure.Proofs.World.Earnings

/-!
# The order of declarations

The scenes and the objects of a world may be written in any order: a world that is written in
another order is accepted just as well, and the compiled worlds differ only in the order in which
their scenes list the objects (`compile_rearranged`). The check and the resolver know a world only
through the ids that exist (`Known.Same`) and the flags that names stand for, and these do not
depend on the order; the maps that are made of the lists do not either, since the ids in a world
without faults are distinct.
-/

namespace TextAdventure

open Std

/-! ## Rearranged worlds -/

/-- The same world with its scenes and its objects written in another order. -/
structure Authored.World.Rearranged (a a' : Authored.World) : Prop where
  game : a'.game = a.game
  scenes : a'.scenes.Perm a.scenes
  objects : a'.objects.Perm a.objects

/-- The scenes differ at most in the order in which they list their objects. -/
structure Scene.SameButOrder (sc sc' : Scene) : Prop where
  rest : sc' = { sc with objects := sc'.objects }
  objects : sc'.objects.Perm sc.objects

/-- The worlds differ at most in the order in which their scenes list their objects. -/
structure World.SameButOrder (w w' : World) : Prop where
  rest : w' = { w with scenes := w'.scenes }
  scenes : ∀ id : Id, Option.Rel Scene.SameButOrder w.scenes[id]? w'.scenes[id]?

variable {a a' : Authored.World} {w w' : World}

theorem Authored.World.Rearranged.symm (h : a.Rearranged a') : a'.Rearranged a :=
  ⟨h.game.symm, h.scenes.symm, h.objects.symm⟩

/-- The world written from back to front. -/
def Authored.World.reversed (a : Authored.World) : Authored.World :=
  { a with scenes := a.scenes.reverse, objects := a.objects.reverse }

theorem Authored.World.rearranged_reversed (a : Authored.World) : a.Rearranged a.reversed :=
  ⟨rfl, List.reverse_perm _, List.reverse_perm _⟩

/-- A name stands for the same flag, wherever what it is about is declared. -/
theorem Authored.World.Rearranged.flag_eq (h : a.Rearranged a') : a'.flag = a.flag := by
  funext name
  unfold Authored.World.flag
  congr 1
  · exact funext fun _ => h.objects.any_eq
  · exact funext fun _ => h.scenes.any_eq

/-! ## The check -/

namespace Authored

/-- The same ids exist. -/
structure Known.Same (known known' : Known) : Prop where
  scenes : ∀ id, id ∈ known'.scenes ↔ id ∈ known.scenes
  objects : ∀ id, id ∈ known'.objects ↔ id ∈ known.objects
  containers : ∀ id, id ∈ known'.containers ↔ id ∈ known.containers

theorem World.Rearranged.known (h : a.Rearranged a') :
    (Known.ofWorld a).Same (.ofWorld a') where
  scenes _ := (h.scenes.map _).mem_iff
  objects _ := (h.objects.map _).mem_iff
  containers _ := ((h.objects.filter _).map _).mem_iff

section Same

variable {known known' : Known}

theorem missing_congr {ids ids' : List Id} (h : ∀ id, id ∈ ids' ↔ id ∈ ids) (kind : String)
    (id : Id) (context : String) : missing kind id ids' context = missing kind id ids context := by
  unfold missing
  simp only [h id]

theorem flagFaults_congr (h : known.Same known') : flagFaults known' = flagFaults known := by
  funext context name
  unfold flagFaults
  simp only [missing_congr h.objects, missing_congr h.scenes]

theorem termFaults_congr (h : known.Same known') : termFaults known' = termFaults known := by
  funext context clause terms
  induction terms with
  | nil => rfl
  | cons first rest ih =>
    unfold termFaults
    rw [flagFaults_congr h, ih]

theorem conditionFaults_congr (h : known.Same known') :
    conditionFaults known' = conditionFaults known := by
  funext context clauses
  unfold conditionFaults clauseFaults
  rw [termFaults_congr h]

theorem descriptionFaults_congr (h : known.Same known') :
    descriptionFaults known' = descriptionFaults known := by
  funext context d
  unfold descriptionFaults
  rw [conditionFaults_congr h]

theorem placeFaults_congr (h : known.Same known') : placeFaults known' = placeFaults known := by
  funext context p
  cases p with
  | inventory => rfl
  | nowhere => rfl
  | scene id => exact missing_congr h.scenes ..
  | container holder =>
    unfold placeFaults
    simp only [h.objects, h.containers]

theorem gameFaults_congr (h : known.Same known') : gameFaults known' = gameFaults known := by
  funext g
  unfold gameFaults
  rw [flagFaults_congr h, missing_congr h.scenes]

theorem exitFaults_congr (h : known.Same known') : exitFaults known' = exitFaults known := by
  funext scene taken exits
  induction exits generalizing taken with
  | nil => rfl
  | cons first rest ih =>
    unfold exitFaults
    simp only [missing_congr h.scenes, conditionFaults_congr h, ih]

theorem sceneFaults_congr (h : known.Same known') : sceneFaults known' = sceneFaults known := by
  funext s
  unfold sceneFaults
  rw [descriptionFaults_congr h, exitFaults_congr h]

theorem effectFaults_congr (h : known.Same known') : effectFaults known' = effectFaults known := by
  funext context i
  unfold effectFaults
  simp only [conditionFaults_congr h, descriptionFaults_congr h, flagFaults_congr h,
    missing_congr h.objects, missing_congr h.scenes, placeFaults_congr h]

theorem interactionFaults_congr (h : known.Same known') :
    interactionFaults known' = interactionFaults known := by
  funext object taken written
  induction written generalizing taken with
  | nil => rfl
  | cons first rest ih =>
    unfold interactionFaults
    simp only [effectFaults_congr h, ih]

theorem objectFaults_congr (h : known.Same known') : objectFaults known' = objectFaults known := by
  funext o
  unfold objectFaults
  rw [placeFaults_congr h, descriptionFaults_congr h, interactionFaults_congr h]

end Same

/-! ### Cycles of containment -/

/-- The holders of two objects can be added in either order. -/
theorem addHolder_comm (holders : ExtTreeMap Id Id) {o o' : Object} (hne : o.id ≠ o'.id) :
    addHolder (addHolder holders o) o' = addHolder (addHolder holders o') o := by
  refine ExtTreeMap.ext_getElem? fun id => ?_
  unfold addHolder
  cases o.location <;> cases o'.location <;> try rfl
  -- both are inside containers: an id is that of one of them at most
  simp only [ExtTreeMap.getElem?_insert, LawfulEqCmp.compare_eq_iff_eq]
  by_cases hid : o.id = id
  · rw [if_pos hid, if_neg fun hid' => hne (hid.trans hid'.symm), if_pos hid]
  · rw [if_neg hid, if_neg hid]

/-- With distinct ids the holders are the same in every order. -/
theorem startHolders_perm {objects objects' : List Object}
    (hdistinct : (objects.map (·.id)).Nodup) (h : objects'.Perm objects) :
    startHolders objects' = startHolders objects := by
  refine (h.symm.foldl_eq' (fun o ho o' ho' holders => ?_) ∅).symm
  by_cases hsame : o.id = o'.id
  · rw [List.inj_on_of_nodup_map hdistinct ho ho' hsame]
  · exact addHolder_comm holders hsame

/-! ### Worlds without faults -/

theorem World.Faultless.rearranged (h : a.Rearranged a') (ha : a.Faultless) : a'.Faultless where
  scenes := (h.scenes.map _).nodup_iff.mpr ha.scenes
  objects := (h.objects.map _).nodup_iff.mpr ha.objects
  game := by rw [gameFaults_congr h.known, h.game, ha.game]
  scene s hs := by rw [sceneFaults_congr h.known, ha.scene s (h.scenes.mem_iff.mp hs)]
  object o ho := by rw [objectFaults_congr h.known, ha.object o (h.objects.mem_iff.mp ho)]
  cycles := by
    have hcycles := ha.cycles
    unfold cycleFaults cyclicObjects at hcycles ⊢
    rw [startHolders_perm ha.objects h.objects, hcycles]

end Authored

/-- A world is accepted in every order in which it can be written. -/
theorem World.compile_ok_rearranged (h : a.Rearranged a')
    (haccepted : ∃ w, World.compile a = .ok w) : ∃ w', World.compile a' = .ok w' := by
  obtain ⟨hfaults, hverbs⟩ := compile_ok_iff_distinctVerbs.mp haccepted
  refine compile_ok_iff_distinctVerbs.mpr ⟨?_, fun o ho => hverbs o (h.objects.mem_iff.mp ho)⟩
  exact Authored.World.faults_eq_nil_iff.mpr ((Authored.World.faultless hfaults).rearranged h)

/-! ## Parts -/

namespace Compile

open Authored

theorem condition_congr (h : a'.flag = a.flag) : condition a' = condition a := by
  unfold condition
  rw [h]

theorem overrides_congr (h : a'.flag = a.flag) : overrides a' = overrides a := by
  funext context index written
  induction written generalizing index with
  | nil => rfl
  | cons first rest ih =>
    unfold overrides
    simp only [condition_congr h, ih]

theorem description_congr (h : a'.flag = a.flag) : description a' = description a := by
  unfold description
  rw [overrides_congr h]

theorem exit_congr (h : a'.flag = a.flag) : exit a' = exit a := by
  unfold exit
  rw [condition_congr h]

theorem interaction_congr (h : a'.flag = a.flag) : interaction a' = interaction a := by
  unfold interaction
  rw [condition_congr h, description_congr h, h]

theorem interactions_congr (h : a'.flag = a.flag) : interactions a' = interactions a := by
  funext object found written
  induction written generalizing found with
  | nil => rfl
  | cons first rest ih =>
    unfold interactions
    simp only [interaction_congr h, ih]

theorem object_congr (h : a'.flag = a.flag) : object a' = object a := by
  unfold object
  rw [interactions_congr h, description_congr h]

/-- A scene is resolved to the same one, but for the order of the objects it lists. -/
theorem scene_rearranged (h : a.Rearranged a') {s : Authored.Scene} {sc sc' : Scene}
    (hok : scene a s = .ok sc) (hok' : scene a' s = .ok sc') : sc.SameButOrder sc' := by
  have hperm : sc'.objects.Perm sc.objects := by
    rw [objects_of_scene hok, objects_of_scene hok']
    exact (h.objects.filter _).map _
  refine ⟨?_, hperm⟩
  unfold scene at hok hok'
  rw [exit_congr h.flag_eq, description_congr h.flag_eq] at hok'
  simp only [bind_eq_ok, pure_eq_ok] at hok hok'
  obtain ⟨exits, hexits, d, hd, rfl⟩ := hok
  obtain ⟨exits', hexits', d', hd', rfl⟩ := hok'
  obtain rfl := Except.ok.inj (hexits.symm.trans hexits')
  obtain rfl := Except.ok.inj (hd.symm.trans hd')
  rfl

end Compile

/-! ## Worlds -/

/-- The highest score does not depend on what the scenes list. -/
theorem highestScore_congr {scenes scenes' : ExtTreeMap Id Scene} {objects : ExtTreeMap Id Object}
    (h : ∀ id : Id, Option.Rel Scene.SameButOrder scenes[id]? scenes'[id]?) :
    highestScore scenes' objects = highestScore scenes objects := by
  have hexits : scenes'.values.map (·.exits) = scenes.values.map (·.exits) := by
    refine map_values_congr fun id => ?_
    have hscene := h id
    generalize scenes[id]? = sc, scenes'[id]? = sc' at hscene ⊢
    cases hscene with
    | none => rfl
    | some hsame => rw [hsame.rest, Option.map_some, Option.map_some]
  have hlisted : scenes'.values.flatMap (·.exits) = scenes.values.flatMap (·.exits) := by
    rw [List.flatMap_def, hexits, ← List.flatMap_def]
  unfold highestScore
  rw [hlisted]

namespace World

/-- The objects are the same ones. -/
theorem objects_rearranged (h : a.Rearranged a') (ha : a.Faultless)
    (hw : World.ofAuthored a = .ok w) (hw' : World.ofAuthored a' = .ok w') :
    w'.objects = w.objects := by
  refine ExtTreeMap.ext_getElem? fun id => Option.ext fun o => ?_
  rw [getElem?_objects_iff hw' (ha.rearranged h).objects, getElem?_objects_iff hw ha.objects,
    Compile.object_congr h.flag_eq]
  simp only [h.objects.mem_iff]

/-- The scenes are the same ones, but for the order of the objects they list. -/
theorem scenes_rearranged (h : a.Rearranged a') (ha : a.Faultless)
    (hw : World.ofAuthored a = .ok w) (hw' : World.ofAuthored a' = .ok w') (id : Id) :
    Option.Rel Scene.SameButOrder w.scenes[id]? w'.scenes[id]? := by
  cases hsc : w.scenes[id]? with
  | some sc =>
    obtain ⟨rfl, written, hmem, hok⟩ := scene_of_resolved hw hsc
    obtain ⟨sc', hsc', hok'⟩ :=
      scene_of_written hw' (ha.rearranged h).scenes (h.scenes.mem_iff.mpr hmem)
    rw [(Compile.scene_eq_ok hok).1, hsc']
    exact .some (Compile.scene_rearranged h hok hok')
  | none =>
    cases hsc' : w'.scenes[id]? with
    | none => exact .none
    | some sc' =>
      -- what is found in the one world is written, so that it is found in the other
      obtain ⟨rfl, written, hmem, hok'⟩ := scene_of_resolved hw' hsc'
      obtain ⟨sc, hfound, -⟩ := scene_of_written hw ha.scenes (h.scenes.mem_iff.mp hmem)
      rw [(Compile.scene_eq_ok hok').1, hfound] at hsc
      cases hsc

theorem sameButOrder_of_resolved (h : a.Rearranged a') (ha : a.Faultless)
    (hw : World.ofAuthored a = .ok w) (hw' : World.ofAuthored a' = .ok w') :
    w.SameButOrder w' := by
  have hscenes := scenes_rearranged h ha hw hw'
  have hobjects := objects_rearranged h ha hw hw'
  refine ⟨?_, hscenes⟩
  unfold World.ofAuthored at hw hw'
  simp only [bind_eq_ok, pure_eq_ok] at hw hw'
  obtain ⟨scenes, -, objects, -, rfl⟩ := hw
  obtain ⟨scenes', -, objects', -, rfl⟩ := hw'
  simp only at hscenes hobjects
  rw [hobjects, highestScore_congr hscenes, h.game, h.flag_eq]

/-- **The order of declarations does not matter.** A world that is written in another order is
accepted if and only if it is accepted as it was, and it is the same world but for the order in
which the scenes list their objects: every name stands for the same flag, whether what it is about
is declared before or behind it, and the highest score is the same. -/
theorem compile_rearranged (h : a.Rearranged a') :
    ((∃ w, World.compile a = .ok w) ↔ ∃ w', World.compile a' = .ok w') ∧
      (∀ w w', World.compile a = .ok w → World.compile a' = .ok w' → w.SameButOrder w') ∧
      a'.flag = a.flag := by
  refine ⟨⟨compile_ok_rearranged h, compile_ok_rearranged h.symm⟩, ?_, h.flag_eq⟩
  intro w w' hw hw'
  obtain ⟨hfaults, hresolved⟩ := compile_eq_ok hw
  obtain ⟨-, hresolved'⟩ := compile_eq_ok hw'
  exact sameButOrder_of_resolved h (Authored.World.faultless hfaults) hresolved hresolved'

end World

/-- A belfry in which the flags of the scenes and the objects are named before these are
declared: the lantern, which starts lit, opens the way to the loft, and so does a visit there. -/
def belfry : Authored.World where
  game := { title := "Belfry", startScene := "porch", initialFlags := ["lanternOn"] }
  scenes := [
    { id := "porch", name := "Porch", lit := true, desc := { text := "A porch." },
      exits := [{ direction := "up", destination := "loft", score := 2,
                  requires := ["lanternOn | loft_visited"] }] },
    { id := "loft", name := "Loft", desc := { text := "A loft." },
      exits := [{ direction := "down", destination := "porch" }] }]
  objects := [
    { id := "bell", name := "bell", desc := { text := "A bell." }, location := .scene "porch",
      interactions := [
        { verb := "ring", requires := ["!crateOpen"], grants := ["loft_visited"], score := 1 }] },
    { id := "lantern", name := "lantern", desc := { text := "A lantern." },
      location := .container "crate", lightSource := some {} },
    { id := "crate", name := "crate", desc := { text := "A crate." }, location := .scene "porch",
      container := some { capacity := 5 } }]

/-- The belfry is the same when it is written from back to front. -/
theorem World.belfry_reversed : ∃ w w', World.compile belfry = .ok w ∧
    World.compile belfry.reversed = .ok w' ∧ w.SameButOrder w' ∧
    belfry.reversed.flag "loft_visited" = .sceneVisited "loft" := by
  obtain ⟨haccepted, hsame, hflag⟩ := compile_rearranged belfry.rearranged_reversed
  obtain ⟨w, hw⟩ : ∃ w, World.compile belfry = .ok w :=
    compile_ok_iff_distinctVerbs.mpr ⟨by decide +kernel, by decide +kernel⟩
  obtain ⟨w', hw'⟩ := haccepted.mp ⟨w, hw⟩
  refine ⟨w, w', hw, hw', hsame w w' hw hw', ?_⟩
  rw [hflag]
  decide +kernel

end TextAdventure
