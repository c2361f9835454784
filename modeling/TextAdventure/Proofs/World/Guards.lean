import TextAdventure.Proofs.Verb
import TextAdventure.Proofs.World.Acceptance

/-!
# Guards of scores

What a verb does to an object scores once: the score has a guard, a flag that is named after the
object and the verb. No two interactions of a compiled world share a guard, so that none takes the
points of another (`guards_not_shared`).

* **objects** have different ids, and the guard has the whole id;
* **verbs** of one object are different, and since all of them were read from words, so are their
  names (`scoreGuard_ofText_eq_iff`);
* **interactions** — what is written is kept: the verbs of a compiled object are those that are
  written for it (`mem_interactions_iff`).
-/

namespace TextAdventure

open Std

/-- The guards of the scores of the interactions that are written. -/
def Authored.World.scoreGuards (a : Authored.World) : List Flag :=
  a.objects.flatMap fun o => o.interactions.map fun i => (Verb.ofText i.verb).scoreGuard o.id

/-- The guards of the scores of the interactions, as they are used when the world is played. -/
def World.scoreGuards (w : World) : List Flag :=
  w.objects.toList.flatMap fun e => e.2.interactions.keys.map fun verb => verb.scoreGuard e.2.id

/-! ## Different guards -/

/-- Guards are different when the ids are, and the verbs for each id, as long as all verbs were
read from words. -/
theorem nodup_guards {α β : Type} {xs : List α} {id : α → Id} {entries : α → List β}
    {verb : β → Verb} (hids : (xs.map id).Nodup)
    (hverbs : ∀ x ∈ xs, ((entries x).map verb).Nodup)
    (hread : ∀ x ∈ xs, ∀ y ∈ entries x, ∃ word, Verb.ofText word = verb y) :
    (xs.flatMap fun x => (entries x).map fun y => (verb y).scoreGuard (id x)).Nodup := by
  rw [List.nodup_flatMap]
  refine ⟨fun x hx => ?_, ?_⟩
  · -- one id: the guards are as different as the verbs
    have hguards : ((entries x).map fun y => (verb y).scoreGuard (id x)) =
        ((entries x).map verb).map (·.scoreGuard (id x)) := by
      rw [List.map_map]
      rfl
    rw [hguards]
    refine (hverbs x hx).map_on fun v hv v' hv' heq => ?_
    obtain ⟨y, hy, rfl⟩ := List.mem_map.mp hv
    obtain ⟨y', hy', rfl⟩ := List.mem_map.mp hv'
    obtain ⟨word, hword⟩ := hread x hx y hy
    obtain ⟨word', hword'⟩ := hread x hx y' hy'
    rw [← hword, ← hword'] at heq ⊢
    exact (Verb.scoreGuard_ofText_eq_iff.mp heq).2
  · -- two ids: the guards name different objects
    refine (List.pairwise_map.mp hids).imp fun hne => List.disjoint_left.mpr fun f hf hf' => ?_
    obtain ⟨y, -, rfl⟩ := List.mem_map.mp hf
    obtain ⟨y', -, heq⟩ := List.mem_map.mp hf'
    exact hne (Flag.interactionScored.inj heq).1.symm

/-! ## Compiled interactions -/

/-- The verbs of the interactions are those that were found before and those that are written. -/
theorem Compile.mem_interactions_iff {a : Authored.World} {object : Id}
    {found found' : ExtTreeMap Verb Interaction} {written : List Authored.Interaction}
    (h : interactions a object found written = .ok found') {verb : Verb} :
    verb ∈ found' ↔ verb ∈ found ∨ ∃ i ∈ written, Verb.ofText i.verb = verb := by
  induction written generalizing found with
  | nil =>
    obtain rfl := Except.ok.inj h
    simp
  | cons first rest ih =>
    unfold interactions at h
    simp only [bind_eq_ok] at h
    obtain ⟨entry, -, h⟩ := h
    split at h
    · cases h
    · rw [ih h, ExtTreeMap.mem_insert, LawfulEqCmp.compare_eq_iff_eq, List.exists_mem_cons_iff,
        or_assoc, or_left_comm]

namespace World

variable {a : Authored.World} {w : World} {f : Flag}

/-- The guards are those of the objects that are found and of the verbs that they know. -/
theorem mem_scoreGuards_iff : f ∈ w.scoreGuards ↔
    ∃ (id : Id) (o : Object), w.objects[id]? = some o ∧
      ∃ verb ∈ o.interactions, verb.scoreGuard o.id = f := by
  unfold scoreGuards
  rw [List.mem_flatMap]
  constructor
  · rintro ⟨⟨id, o⟩, ho, hf⟩
    obtain ⟨verb, hverb, rfl⟩ := List.mem_map.mp hf
    exact ⟨id, o, ExtTreeMap.mem_toList_iff_getElem?_eq_some.mp ho, verb,
      ExtTreeMap.mem_keys.mp hverb, rfl⟩
  · rintro ⟨id, o, ho, verb, hverb, rfl⟩
    exact ⟨(id, o), ExtTreeMap.mem_toList_iff_getElem?_eq_some.mpr ho,
      List.mem_map_of_mem (ExtTreeMap.mem_keys.mpr hverb)⟩

/-- The verbs of an object are those that are written for it. -/
theorem mem_interactions_iff_written {written : Authored.Object} {o : Object}
    (h : Compile.object a written = .ok o) {verb : Verb} :
    verb ∈ o.interactions ↔ ∃ i ∈ written.interactions, Verb.ofText i.verb = verb := by
  obtain ⟨-, -, -, -, -, hfound⟩ := Compile.object_eq_ok h
  rw [Compile.mem_interactions_iff hfound]
  simp

/-- The guards that are used are those of the interactions that are written. -/
theorem mem_scoreGuards_iff_written (h : World.ofAuthored a = .ok w)
    (hdistinct : (a.objects.map (·.id)).Nodup) : f ∈ w.scoreGuards ↔ f ∈ a.scoreGuards := by
  unfold Authored.World.scoreGuards
  rw [mem_scoreGuards_iff, List.mem_flatMap]
  constructor
  · rintro ⟨id, o, ho, verb, hverb, rfl⟩
    obtain ⟨-, written, hmem, hok⟩ := object_of_resolved h ho
    obtain ⟨i, hi, rfl⟩ := (mem_interactions_iff_written hok).mp hverb
    rw [(Compile.object_eq_ok hok).1]
    exact ⟨written, hmem, List.mem_map_of_mem hi⟩
  · rintro ⟨written, hmem, hf⟩
    obtain ⟨i, hi, rfl⟩ := List.mem_map.mp hf
    obtain ⟨o, ho, hok⟩ := object_of_written h hdistinct hmem
    refine ⟨written.id, o, ho, Verb.ofText i.verb, ?_, ?_⟩
    · exact (mem_interactions_iff_written hok).mpr ⟨i, hi, rfl⟩
    · rw [(Compile.object_eq_ok hok).1]

/-- The guards of a world are different. -/
theorem nodup_scoreGuards (h : World.ofAuthored a = .ok w) : w.scoreGuards.Nodup := by
  refine nodup_guards ?_ (fun e _ => ?_) fun e he verb hverb => ?_
  · have hids : w.objects.toList.map (·.2.id) = w.objects.keys := by
      rw [← ExtTreeMap.map_fst_toList_eq_keys]
      refine List.map_congr_left fun e he => ?_
      exact (object_of_resolved h (ExtTreeMap.mem_toList_iff_getElem?_eq_some.mp he)).1
    rw [hids]
    exact ExtTreeMap.nodup_keys
  · rw [List.map_id']
    exact ExtTreeMap.nodup_keys
  · obtain ⟨-, written, -, hok⟩ :=
      object_of_resolved h (ExtTreeMap.mem_toList_iff_getElem?_eq_some.mp he)
    obtain ⟨i, -, hread⟩ :=
      (mem_interactions_iff_written hok).mp (ExtTreeMap.mem_keys.mp hverb)
    exact ⟨i.verb, hread⟩

/-- The guards of the interactions that are written are different when the ids of the objects are,
and the verbs on each object. -/
theorem nodup_scoreGuards_written (hdistinct : (a.objects.map (·.id)).Nodup)
    (hverbs : ∀ o ∈ a.objects, o.DistinctVerbs) : a.scoreGuards.Nodup :=
  nodup_guards hdistinct hverbs fun _ _ i _ => ⟨i.verb, rfl⟩

/-- **No two interactions share a guard.** A verb that was read from a word is read again from its
name and from the player's words for it, so that the guard of its score on an object tells the
object and the verb. Every interaction that is written for a compiled world has a guard of its own,
and the world uses these guards and no others. -/
theorem guards_not_shared :
    (∀ word, Verb.ofText (Verb.ofText word).key = Verb.ofText word ∧
      Verb.ofText (Verb.ofText word).text = Verb.ofText word) ∧
    (∀ word word' object object',
      (Verb.ofText word).scoreGuard object = (Verb.ofText word').scoreGuard object' ↔
        object = object' ∧ Verb.ofText word = Verb.ofText word') ∧
    ∀ (a : Authored.World) (w : World), World.compile a = .ok w →
      w.scoreGuards.Nodup ∧ w.scoreGuards.Perm a.scoreGuards := by
  refine ⟨fun word => ⟨Verb.ofText_key word, Verb.ofText_text word⟩,
    fun _ _ _ _ => Verb.scoreGuard_ofText_eq_iff, fun a w h => ?_⟩
  obtain ⟨hfaults, hresolved⟩ := compile_eq_ok h
  have hdistinct := (Authored.World.faultless hfaults).objects
  have hverbs := (compile_ok_iff_distinctVerbs.mp ⟨w, h⟩).2
  have hnodup := nodup_scoreGuards hresolved
  have hwritten := nodup_scoreGuards_written hdistinct hverbs
  exact ⟨hnodup, (List.perm_ext_iff_of_nodup hnodup hwritten).mpr fun _ =>
    mem_scoreGuards_iff_written hresolved hdistinct⟩

end World

/-! ### A lighthouse -/

/-- A lighthouse with a lamp and a bell. Both are turned on, in words of their own, and the bell has
a verb that ends in the name of this one. -/
def lighthouse : Authored.World where
  game := { title := "Lighthouse", startScene := "gallery" }
  scenes := [{ id := "gallery", name := "Gallery", lit := true, desc := { text := "A gallery." } }]
  objects := [
    { id := "lamp", name := "lamp", desc := { text := "A lamp." }, location := .scene "gallery",
      interactions := [{ verb := "turn_on", score := 5 }, { verb := " Switch  OFF", score := 2 }] },
    { id := "lamp/bell", name := "bell", desc := { text := "A bell." },
      location := .scene "gallery",
      interactions := [{ verb := "Light" }, { verb := "ΗΧΟΣ\tturn_on ", score := 3 }] }]

/-- The lamp and the bell have four guards. -/
theorem World.lighthouse_guards : ∃ w, World.compile lighthouse = .ok w ∧ w.scoreGuards.Nodup ∧
    w.scoreGuards.Perm [.interactionScored "lamp" "turn_on", .interactionScored "lamp" "turn_off",
      .interactionScored "lamp/bell" "turn_on", .interactionScored "lamp/bell" "ηχος turn_on"] := by
  have hcompiled : (World.compile lighthouse).isOk = true := by decide +kernel
  have hguards : lighthouse.scoreGuards =
      [.interactionScored "lamp" "turn_on", .interactionScored "lamp" "turn_off",
        .interactionScored "lamp/bell" "turn_on",
        .interactionScored "lamp/bell" "ηχος turn_on"] := by
    decide +kernel
  obtain ⟨w, hw⟩ := isOk_iff.mp hcompiled
  obtain ⟨hnodup, hperm⟩ := guards_not_shared.2.2 lighthouse w hw
  exact ⟨w, hw, hnodup, hguards ▸ hperm⟩

end TextAdventure
