import TextAdventure.Proofs.Condition
import TextAdventure.Proofs.World.Coherent

/-!
# Which worlds are accepted

The check of an authored world and the compiler read its conditions each in their own way. They
agree on every clause: a clause that the check finds nothing wrong with is read
(`ofClauses_ok`), and so every part of a world without faults can be compiled but for one thing.
The check compares verbs as they are written, the compiler after folding synonyms, so that an
object with two interactions for one verb is still refused.

* **acceptance** — a world is compiled exactly when it has no faults and the verbs of each object
  are distinct after folding; nothing but such a repeated verb stops the compiler in a world
  without faults (`compile_accepts_iff`).
-/

namespace TextAdventure

open Std

/-! ## Conditions -/

namespace Condition

open Authored

variable {resolve : String → Flag} {known : Known} {context clause term : String}

theorem termName_of_negated {rest : String} (h : Text.trim term = "!" ++ rest) :
    termName term = Text.trim rest := by
  unfold termName
  simp only [Text.after?_eq_some_iff.mpr h]
  rfl

theorem termName_of_plain (h : ∀ rest, Text.trim term ≠ "!" ++ rest) :
    termName term = Text.trim term := by
  unfold termName
  simp only [Text.after?_eq_none_iff.mpr h]
  rfl

/-- A term is read exactly when it names a flag. -/
theorem ofTerm_ok_iff :
    (∃ c, ofTerm resolve clause term = .ok c) ↔ (termName term).isEmpty = false := by
  rcases ofTerm_cases resolve clause term with ⟨hblank, hread⟩ | ⟨rest, hwritten, hrest, hread⟩ |
    ⟨rest, hwritten, hrest, hread⟩ | ⟨hblank, hplain, hread⟩ <;> rw [hread]
  · rw [termName_of_plain fun rest => ne_bang_of_blank hblank, hblank]
    simp
  · rw [termName_of_negated hwritten, hrest]
    simp
  · rw [termName_of_negated hwritten]
    simpa using hrest
  · rw [termName_of_plain hplain]
    simpa using hblank

/-- A clause is read exactly when it is not blank and each of its terms names a flag. -/
theorem ofClause_ok_iff : (∃ c, ofClause resolve clause = .ok c) ↔
    (Text.trim clause).isEmpty = false ∧
      ∀ term ∈ Text.splitAt '|' clause, (termName term).isEmpty = false := by
  unfold ofClause
  by_cases hblank : (Text.trim clause).isEmpty = true
  · simp [hblank]
  · rw [if_neg hblank]
    simp only [bind_eq_ok]
    constructor
    · rintro ⟨c, terms, hterms, -⟩
      refine ⟨Bool.eq_false_iff.mpr hblank, fun term hterm => ?_⟩
      obtain ⟨c', -, hc'⟩ := exists_of_mem_list hterms hterm
      exact ofTerm_ok_iff.mp ⟨c', hc'⟩
    · rintro ⟨-, hnamed⟩
      obtain ⟨terms, hterms⟩ : ∃ terms,
          (Text.splitAt '|' clause).mapM (ofTerm resolve clause) = .ok terms :=
        mapM_ok fun term hterm => ofTerm_ok_iff.mpr (hnamed term hterm)
      -- a single term is left as it is, several are put together
      rcases terms with _ | ⟨c, _ | ⟨c', rest⟩⟩
      · exact ⟨_, _, hterms, rfl⟩
      · exact ⟨_, _, hterms, rfl⟩
      · exact ⟨_, _, hterms, rfl⟩

/-- Terms have no faults exactly when each of them names a flag, and its name has none. -/
theorem termFaults_eq_nil_iff {terms : List String} :
    termFaults known context clause terms = [] ↔ ∀ term ∈ terms,
      (termName term).isEmpty = false ∧ flagFaults known context (termName term) = [] := by
  induction terms with
  | nil => exact iff_of_true rfl nofun
  | cons first rest ih =>
    unfold termFaults
    rw [List.forall_mem_cons]
    split
    · rename_i hfirst
      exact iff_of_false nofun fun h => absurd hfirst (Bool.eq_false_iff.mp h.1.1)
    · rename_i hfirst
      rw [List.append_eq_nil_iff, ih, and_congr_left_iff]
      exact fun _ => (and_iff_right (Bool.eq_false_iff.mpr hfirst)).symm

/-- A clause without faults is read, whatever its names stand for. -/
theorem ofClause_ok (h : clauseFaults known context clause = []) :
    ∃ c, ofClause resolve clause = .ok c := by
  unfold clauseFaults at h
  split at h
  · cases h
  · rename_i hblank
    exact ofClause_ok_iff.mpr ⟨Bool.eq_false_iff.mpr hblank,
      fun term hterm => (termFaults_eq_nil_iff.mp h term hterm).1⟩

/-- Clauses are read exactly when each of them is. -/
theorem ofClauses_ok_iff {clauses : Clauses} : (∃ c, ofClauses resolve clauses = .ok c) ↔
    ∀ clause ∈ clauses, ∃ c, ofClause resolve clause = .ok c := by
  constructor
  · rintro ⟨c, h⟩ clause hclause
    obtain ⟨parts, hparts, -⟩ := ofClauses_eq_ok h
    obtain ⟨part, -, hpart⟩ := exists_of_mem_list hparts hclause
    exact ⟨part, hpart⟩
  · intro h
    obtain ⟨parts, hparts⟩ := mapM_ok h
    unfold ofClauses
    rw [hparts, ok_bind]
    -- none ask for nothing, a single one is left as it is, several are put together
    rcases parts with _ | ⟨c, _ | ⟨c', rest⟩⟩
    · exact ⟨_, rfl⟩
    · exact ⟨_, rfl⟩
    · exact ⟨_, rfl⟩

/-- Clauses without faults are read, whatever their names stand for. -/
theorem ofClauses_ok (resolve : String → Flag) {clauses : Clauses}
    (h : conditionFaults known context clauses = []) : ∃ c, ofClauses resolve clauses = .ok c := by
  unfold conditionFaults at h
  rw [List.flatMap_eq_nil_iff] at h
  exact ofClauses_ok_iff.mpr fun clause hclause => ofClause_ok (h clause hclause)

end Condition

/-! ## Parts without faults -/

namespace Compile

open Authored

variable {known : Known} {checked : String}

theorem condition_ok (a : Authored.World) (context : String) {clauses : Clauses}
    (h : conditionFaults known checked clauses = []) :
    ∃ c, condition a context clauses = .ok c := by
  obtain ⟨c, hc⟩ := Condition.ofClauses_ok a.flag h
  exact ⟨c, mapError_eq_ok.mpr hc⟩

theorem overrides_ok (a : Authored.World) (context : String) (index : Nat)
    {written : List Override}
    (h : ∀ o ∈ written, conditionFaults known checked o.when = []) :
    ∃ found, overrides a context index written = .ok found := by
  induction written generalizing index with
  | nil => exact ⟨[], rfl⟩
  | cons first rest ih =>
    obtain ⟨c, hc⟩ := condition_ok a (context ++ " override " ++ toString index)
      (h first (List.mem_cons_self ..))
    obtain ⟨found, hfound⟩ := ih (index + 1) fun o ho => h o (List.mem_cons_of_mem _ ho)
    unfold overrides
    rw [hc, ok_bind, hfound]
    exact ⟨_, rfl⟩

theorem description_ok (a : Authored.World) (context : String) {d : Authored.Description}
    (h : descriptionFaults known checked d = []) : ∃ d', description a context d = .ok d' := by
  unfold descriptionFaults at h
  rw [List.flatMap_eq_nil_iff] at h
  obtain ⟨found, hfound⟩ := overrides_ok a context 0 h
  unfold description
  rw [hfound]
  exact ⟨_, rfl⟩

theorem scene_ok (a : Authored.World) {s : Authored.Scene} (h : sceneFaults known s = []) :
    ∃ s', scene a s = .ok s' := by
  unfold sceneFaults at h
  obtain ⟨hdescription, hexits⟩ := List.append_eq_nil_iff.mp h
  obtain ⟨exits, hexits⟩ : ∃ exits, s.exits.mapM (exit a (sceneContext s.id)) = .ok exits := by
    refine mapM_ok fun e he => ?_
    obtain ⟨-, _, hrequires⟩ := parts_of_exitFaults hexits e he
    obtain ⟨c, hc⟩ := condition_ok a (sceneContext s.id ++ " exit '" ++ e.direction ++ "'")
      hrequires
    unfold exit
    rw [hc]
    exact ⟨_, rfl⟩
  obtain ⟨d, hd⟩ := description_ok a (sceneContext s.id) hdescription
  unfold scene
  simp only [hexits, hd, ok_bind]
  exact ⟨_, rfl⟩

theorem interaction_ok (a : Authored.World) (context : String) {i : Authored.Interaction}
    (h : effectFaults known checked i = []) : ∃ i', interaction a context i = .ok i' := by
  unfold effectFaults at h
  simp only [List.append_eq_nil_iff] at h
  obtain ⟨⟨⟨⟨⟨⟨hrequires, hmessage⟩, -⟩, -⟩, -⟩, -⟩, -⟩ := h
  obtain ⟨c, hc⟩ := condition_ok a context hrequires
  unfold interaction
  cases hm : i.message with
  | none =>
    simp only [Option.mapM_none, hc]
    exact ⟨_, rfl⟩
  | some d =>
    rw [hm] at hmessage
    obtain ⟨d', hd'⟩ := description_ok a context hmessage
    simp only [Option.mapM_some, hd', hc]
    exact ⟨_, rfl⟩

end Compile

/-! ## Distinct verbs -/

/-- No two interactions of the object are for one verb, synonyms folded. -/
def Authored.Object.DistinctVerbs (o : Authored.Object) : Prop :=
  (o.interactions.map fun i => Verb.ofText i.verb).Nodup

instance (o : Authored.Object) : Decidable o.DistinctVerbs :=
  inferInstanceAs (Decidable (List.Nodup _))

/-- An interaction of the object is for the verb of one before it, and is reported. -/
def Authored.Object.Repeats (o : Authored.Object) (cause : WorldError) : Prop :=
  ∃ before i after, o.interactions = before ++ i :: after ∧
    (∃ j ∈ before, Verb.ofText j.verb = Verb.ofText i.verb) ∧ cause = .repeatedVerb o.id i.verb

namespace Compile

variable {a : Authored.World} {cause : WorldError}

section Interactions

variable {object : Id} {found : ExtTreeMap Verb Interaction}
  {written : List Authored.Interaction}

/-- Interactions that can be compiled one by one are compiled together exactly when their verbs
are distinct and none has been found before. -/
theorem interactions_ok_iff
    (h : ∀ i ∈ written, ∀ context, ∃ entry, interaction a context i = .ok entry) :
    (∃ found', interactions a object found written = .ok found') ↔
      (written.map fun i => Verb.ofText i.verb).Nodup ∧
        ∀ i ∈ written, Verb.ofText i.verb ∉ found := by
  induction written generalizing found with
  | nil => simp [interactions]
  | cons first rest ih =>
    obtain ⟨entry, hentry⟩ := h first (List.mem_cons_self ..)
      (Authored.objectContext object ++ " verb '" ++ first.verb ++ "'")
    have hrest := @ih (found.insert (Verb.ofText first.verb) entry)
      fun i hi => h i (List.mem_cons_of_mem _ hi)
    unfold interactions
    simp only [hentry, ok_bind]
    by_cases hmem : Verb.ofText first.verb ∈ found
    · rw [if_pos (ExtTreeMap.contains_iff_mem.mpr hmem)]
      simp [hmem]
    · rw [if_neg fun hcontains => hmem (ExtTreeMap.contains_iff_mem.mp hcontains)]
      show (∃ found', interactions a object _ rest = .ok found') ↔ _
      rw [hrest]
      -- what has been found now is what was found before and the first verb
      simp only [List.map_cons, List.nodup_cons, List.mem_map, not_exists, not_and,
        List.forall_mem_cons, ExtTreeMap.mem_insert, not_or, LawfulEqCmp.compare_eq_iff_eq]
      constructor
      · rintro ⟨hnodup, hnew⟩
        exact ⟨⟨fun i hi heq => (hnew i hi).1 heq.symm, hnodup⟩, hmem, fun i hi => (hnew i hi).2⟩
      · rintro ⟨⟨hne, hnodup⟩, -, hnew⟩
        exact ⟨hnodup, fun i hi => ⟨fun heq => hne i hi heq.symm, hnew i hi⟩⟩

/-- Interactions that can be compiled one by one are stopped by a repeated verb only. -/
theorem interactions_eq_error
    (h : ∀ i ∈ written, ∀ context, ∃ entry, interaction a context i = .ok entry)
    (herror : interactions a object found written = .error cause) :
    ∃ before i after, written = before ++ i :: after ∧
      (Verb.ofText i.verb ∈ found ∨ ∃ j ∈ before, Verb.ofText j.verb = Verb.ofText i.verb) ∧
      cause = .repeatedVerb object i.verb := by
  induction written generalizing found with
  | nil => cases herror
  | cons first rest ih =>
    obtain ⟨entry, hentry⟩ := h first (List.mem_cons_self ..)
      (Authored.objectContext object ++ " verb '" ++ first.verb ++ "'")
    unfold interactions at herror
    simp only [hentry, ok_bind] at herror
    by_cases hmem : Verb.ofText first.verb ∈ found
    · rw [if_pos (ExtTreeMap.contains_iff_mem.mpr hmem)] at herror
      exact ⟨[], first, rest, rfl, .inl hmem, (Except.error.inj herror).symm⟩
    · rw [if_neg fun hcontains => hmem (ExtTreeMap.contains_iff_mem.mp hcontains)] at herror
      obtain ⟨before, i, after, rfl, hrepeated, rfl⟩ :=
        ih (fun i hi => h i (List.mem_cons_of_mem _ hi)) herror
      refine ⟨first :: before, i, after, rfl, ?_, rfl⟩
      rcases hrepeated with hfound | ⟨j, hj, heq⟩
      · rcases ExtTreeMap.mem_insert.mp hfound with heq | hfound
        · exact .inr ⟨first, List.mem_cons_self .., LawfulEqCmp.eq_of_compare heq⟩
        · exact .inl hfound
      · exact .inr ⟨j, List.mem_cons_of_mem _ hj, heq⟩

end Interactions

section Object

variable {known : Authored.Known} {o : Authored.Object}

/-- In an object without faults every interaction can be compiled. -/
theorem interaction_of_objectFaults (h : Authored.objectFaults known o = []) :
    ∀ i ∈ o.interactions, ∀ context, ∃ entry, interaction a context i = .ok entry := by
  unfold Authored.objectFaults at h
  intro i hi context
  obtain ⟨-, _, heffects⟩ :=
    Authored.parts_of_interactionFaults (List.append_eq_nil_iff.mp h).2 i hi
  exact interaction_ok a context heffects

/-- In an object without faults nothing but the interactions can stop the compiler. -/
theorem object_of_interactions (h : Authored.objectFaults known o = []) :
    ∃ d, object a o = (do
      let found ← interactions a o.id ∅ o.interactions
      return { id := o.id, name := o.name, aliases := o.aliases, description := d,
               start := o.location, visibleOnEntry := o.visibleOnEntry,
               requiresLight := o.requiresLight, takeable := o.takeable, weight := o.weight,
               container := o.container, lightSource := o.lightSource,
               interactions := found }) := by
  unfold Authored.objectFaults at h
  simp only [List.append_eq_nil_iff] at h
  obtain ⟨⟨⟨⟨-, hdescription⟩, -⟩, -⟩, -⟩ := h
  obtain ⟨d, hd⟩ :=
    description_ok a (Authored.objectContext o.id) hdescription
  refine ⟨d, ?_⟩
  unfold object
  simp only [hd, ok_bind]

/-- An object without faults is compiled exactly when its verbs are distinct. -/
theorem object_ok_iff (h : Authored.objectFaults known o = []) :
    (∃ o', object a o = .ok o') ↔ o.DistinctVerbs := by
  obtain ⟨d, hobject⟩ := object_of_interactions (a := a) h
  have hverbs := @interactions_ok_iff a o.id ∅ _ (interaction_of_objectFaults h)
  have hempty : ∀ i ∈ o.interactions, Verb.ofText i.verb ∉ (∅ : ExtTreeMap Verb Interaction) :=
    fun i _ => ExtTreeMap.not_mem_empty
  rw [hobject]
  unfold Authored.Object.DistinctVerbs
  constructor
  · rintro ⟨o', ho'⟩
    obtain ⟨found, hfound, -⟩ := bind_eq_ok.mp ho'
    exact (hverbs.mp ⟨found, hfound⟩).1
  · intro hdistinct
    obtain ⟨found, hfound⟩ := hverbs.mpr ⟨hdistinct, hempty⟩
    rw [hfound]
    exact ⟨_, rfl⟩

/-- An object without faults is stopped by a repeated verb only. -/
theorem object_eq_error (h : Authored.objectFaults known o = [])
    (herror : object a o = .error cause) : o.Repeats cause := by
  obtain ⟨d, hobject⟩ := object_of_interactions (a := a) h
  rw [hobject] at herror
  cases hfound : interactions a o.id ∅ o.interactions with
  | ok found =>
    rw [hfound] at herror
    cases herror
  | error cause' =>
    rw [hfound] at herror
    obtain rfl : cause' = cause := Except.error.inj herror
    obtain ⟨before, i, after, hsplit, hrepeated, hcause⟩ :=
      interactions_eq_error (interaction_of_objectFaults h) hfound
    exact ⟨before, i, after, hsplit, hrepeated.resolve_left ExtTreeMap.not_mem_empty, hcause⟩

end Object

end Compile

/-! ## Worlds -/

namespace World

variable {a : Authored.World} {cause : WorldError}

/-- A world whose scenes and objects can be resolved can be resolved. -/
theorem ofAuthored_ok_iff : (∃ w, World.ofAuthored a = .ok w) ↔
    (∃ scenes, a.scenes.mapM (Compile.scene a) = .ok scenes) ∧
      ∃ objects, a.objects.mapM (Compile.object a) = .ok objects := by
  constructor
  · rintro ⟨w, hw⟩
    obtain ⟨-, scenes, objects, hscenes, hobjects, -⟩ := ofAuthored_eq_ok hw
    exact ⟨⟨scenes, hscenes⟩, objects, hobjects⟩
  · rintro ⟨⟨scenes, hscenes⟩, objects, hobjects⟩
    unfold World.ofAuthored
    rw [hscenes, ok_bind, hobjects]
    exact ⟨_, rfl⟩

/-- Without faults the scenes can be resolved. -/
theorem scenes_ok (h : a.Faultless) :
    ∃ scenes, a.scenes.mapM (Compile.scene a) = .ok scenes :=
  mapM_ok fun s hs => Compile.scene_ok a (h.scene s hs)

/-- A world without faults can be resolved exactly when the verbs of its objects are distinct. -/
theorem ofAuthored_ok_iff_distinctVerbs (h : a.Faultless) :
    (∃ w, World.ofAuthored a = .ok w) ↔ ∀ o ∈ a.objects, o.DistinctVerbs := by
  rw [ofAuthored_ok_iff]
  constructor
  · rintro ⟨-, objects, hobjects⟩ o ho
    obtain ⟨o', -, ho'⟩ := exists_of_mem_list hobjects ho
    exact (Compile.object_ok_iff (h.object o ho)).mp ⟨o', ho'⟩
  · intro hdistinct
    exact ⟨scenes_ok h, mapM_ok fun o ho =>
      (Compile.object_ok_iff (h.object o ho)).mpr (hdistinct o ho)⟩

/-- A world without faults is stopped by a repeated verb only. -/
theorem repeats_of_ofAuthored (h : a.Faultless) (herror : World.ofAuthored a = .error cause) :
    ∃ o ∈ a.objects, o.Repeats cause := by
  obtain ⟨scenes, hscenes⟩ := scenes_ok h
  have hobjects : a.objects.mapM (Compile.object a) = .error cause := by
    unfold World.ofAuthored at herror
    rw [hscenes, ok_bind] at herror
    cases hobjects : a.objects.mapM (Compile.object a) with
    | ok objects =>
      rw [hobjects] at herror
      cases herror
    | error cause' =>
      rw [hobjects] at herror
      exact congrArg Except.error (Except.error.inj herror)
  obtain ⟨o, ho, herror⟩ := exists_of_mapM_error hobjects
  exact ⟨o, ho, Compile.object_eq_error (h.object o ho) herror⟩

theorem compile_ok_iff : (∃ w, World.compile a = .ok w) ↔
    a.faults = [] ∧ ∃ w, World.ofAuthored a = .ok w := by
  constructor
  · rintro ⟨w, hw⟩
    obtain ⟨hfaults, hresolved⟩ := compile_eq_ok hw
    exact ⟨hfaults, w, hresolved⟩
  · rintro ⟨hfaults, w, hresolved⟩
    refine ⟨w, ?_⟩
    unfold World.compile
    rw [hfaults]
    exact mapError_eq_ok.mpr hresolved

theorem compile_ok_iff_distinctVerbs : (∃ w, World.compile a = .ok w) ↔
    a.faults = [] ∧ ∀ o ∈ a.objects, o.DistinctVerbs := by
  rw [compile_ok_iff]
  exact and_congr_right fun hfaults =>
    ofAuthored_ok_iff_distinctVerbs (Authored.World.faultless hfaults)

/-- **Acceptance**: a world is compiled exactly when it has no faults and no object has two
interactions for one verb. In a world without faults the compiler stops at nothing else: its
error is the one for an interaction whose verb an earlier one of the object has. -/
theorem compile_accepts_iff (a : Authored.World) :
    ((∃ w, World.compile a = .ok w) ↔ a.faults = [] ∧ ∀ o ∈ a.objects, o.DistinctVerbs) ∧
      ∀ cause, a.faults = [] → World.ofAuthored a = .error cause →
        ∃ o ∈ a.objects, o.Repeats cause := by
  refine ⟨compile_ok_iff_distinctVerbs, ?_⟩
  intro cause hfaults herror
  exact repeats_of_ofAuthored (Authored.World.faultless hfaults) herror

end World

/-- A larder with an apple that is taken in two ways of saying so. -/
def larder : Authored.World where
  game := { title := "Larder", startScene := "larder" }
  scenes := [{ id := "larder", name := "Larder", lit := true, desc := { text := "A larder." } }]
  objects := [
    { id := "apple", name := "apple", desc := { text := "An apple." },
      location := .scene "larder",
      interactions := [{ verb := "take" }, { verb := "Pick  Up", requires := ["!light"] }] }]

/-- The larder has no faults and is not accepted: its two verbs are one. -/
theorem World.larder_rejected : larder.faults = [] ∧ (¬∃ w, World.compile larder = .ok w) ∧
    ∃ cause, World.ofAuthored larder = .error cause ∧
      ∃ o ∈ larder.objects, o.Repeats cause := by
  have hfaults : larder.faults = [] := by decide +kernel
  have hrepeated : ¬∀ o ∈ larder.objects, o.DistinctVerbs := by decide +kernel
  have hrejected : ¬∃ w, World.compile larder = .ok w :=
    fun haccepted => hrepeated ((compile_accepts_iff larder).1.mp haccepted).2
  refine ⟨hfaults, hrejected, ?_⟩
  cases herror : World.ofAuthored larder with
  | ok w => exact (hrejected (compile_ok_iff.mpr ⟨hfaults, w, herror⟩)).elim
  | error cause => exact ⟨cause, rfl, (compile_accepts_iff larder).2 cause hfaults herror⟩

end TextAdventure
