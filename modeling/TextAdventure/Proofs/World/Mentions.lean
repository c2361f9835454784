import TextAdventure.Proofs.World.Acceptance
import TextAdventure.Proofs.World.Flags

/-!
# Flags that a world mentions

A world speaks of flags in its conditions, in what its interactions grant and remove, and in what
holds at the beginning. Wherever a compiled world mentions a flag, it is what an author's name
without faults stands for (`named_of_mentions`), and what such a flag is about exists
(`knows_of_named`). So the world can only begin with known flags and grant known flags
(`flagwise_of_compile`).
-/

namespace TextAdventure

open Std Text

/-! ## Mentioning -/

/-- The flag is in the condition. -/
inductive Condition.Mentions (f : Flag) : Condition → Prop where
  | atom : Mentions f (.atom f)
  | not {inner : Condition} (h : Mentions f inner) : Mentions f (.not inner)
  | and {parts : List Condition} {part : Condition} (hpart : part ∈ parts)
      (h : Mentions f part) : Mentions f (.and parts)
  | or {parts : List Condition} {part : Condition} (hpart : part ∈ parts)
      (h : Mentions f part) : Mentions f (.or parts)

/-- The flags in a condition. -/
def Condition.flags : Condition → List Flag
  | always => []
  | atom flag => [flag]
  | not inner => inner.flags
  | and parts | or parts => flagsOf parts
where
  /-- The flags in some conditions. -/
  flagsOf : List Condition → List Flag
    | [] => []
    | c :: rest => c.flags ++ flagsOf rest

theorem Condition.mem_flagsOf {f : Flag} {parts : List Condition} :
    f ∈ flags.flagsOf parts ↔ ∃ part ∈ parts, f ∈ part.flags := by
  induction parts with
  | nil => simp [flags.flagsOf]
  | cons c rest ih => simp [flags.flagsOf, ih]

theorem Condition.mem_flags {f : Flag} (c : Condition) : f ∈ c.flags ↔ c.Mentions f := by
  have hparts : ∀ parts : List Condition, (∀ part ∈ parts, f ∈ part.flags ↔ part.Mentions f) →
      (f ∈ flags.flagsOf parts ↔ ∃ part ∈ parts, part.Mentions f) := by
    intro parts hpart
    rw [mem_flagsOf]
    exact exists_congr fun part => and_congr_right (hpart part)
  cases c with
  | always => exact iff_of_false nofun nofun
  | atom flag =>
    rw [flags, List.mem_singleton]
    exact ⟨fun h => h ▸ .atom, fun h => by cases h; rfl⟩
  | not inner =>
    rw [flags, mem_flags inner]
    exact ⟨.not, fun h => by cases h; assumption⟩
  | and parts =>
    rw [flags, hparts parts fun part _ => mem_flags part]
    exact ⟨fun ⟨_, hmem, h⟩ => .and hmem h, fun h => by cases h; exact ⟨_, ‹_›, ‹_›⟩⟩
  | or parts =>
    rw [flags, hparts parts fun part _ => mem_flags part]
    exact ⟨fun ⟨_, hmem, h⟩ => .or hmem h, fun h => by cases h; exact ⟨_, ‹_›, ‹_›⟩⟩

instance (f : Flag) (c : Condition) : Decidable (c.Mentions f) :=
  decidable_of_iff _ c.mem_flags

/-- The flag is in the condition of a text that replaces another one. -/
def Description.Mentions (f : Flag) (d : Description) : Prop :=
  ∃ o ∈ d.overrides, o.1.Mentions f

instance (f : Flag) (d : Description) : Decidable (d.Mentions f) :=
  inferInstanceAs (Decidable (∃ o ∈ d.overrides, o.1.Mentions f))

/-- The flag is in the condition of the interaction or of its texts, or is granted or removed. -/
inductive Interaction.Mentions (f : Flag) (i : Interaction) : Prop where
  | precondition (h : i.precondition.Mentions f)
  | message {d : Description} (hd : i.message = some d) (h : d.Mentions f)
  | granted (h : f ∈ i.grants)
  | removed (h : f ∈ i.removes)

/-- The flag occurs in the world: it holds at the beginning, or is in an exit, a description or an
interaction. -/
inductive World.Mentions (f : Flag) (w : World) : Prop where
  | initial (h : f ∈ w.initialFlags)
  | exit {id : Id} {sc : Scene} {e : Exit} (hsc : w.scenes[id]? = some sc) (he : e ∈ sc.exits)
      (h : e.precondition.Mentions f)
  | scene {id : Id} {sc : Scene} (hsc : w.scenes[id]? = some sc) (h : sc.description.Mentions f)
  | object {id : Id} {o : Object} (ho : w.objects[id]? = some o) (h : o.description.Mentions f)
  | interaction {id : Id} {o : Object} {verb : Verb} {i : Interaction}
      (ho : w.objects[id]? = some o) (hi : o.interactions[verb]? = some i) (h : i.Mentions f)

/-- The flag is what a name without faults stands for. -/
def Authored.World.Names (a : Authored.World) (f : Flag) : Prop :=
  ∃ context name, Authored.flagFaults (.ofWorld a) context name = [] ∧ a.flag name = f

/-! ## Names in conditions -/

namespace Condition

open Authored

variable {resolve : String → Flag} {known : Known} {context clause term : String} {f : Flag}
  {c : Condition}

/-- A term mentions the flag of its name, and no other one. -/
theorem mentions_of_ofTerm (h : ofTerm resolve clause term = .ok c) (hf : c.Mentions f) :
    f = resolve (termName term) := by
  rcases ofTerm_cases resolve clause term with ⟨-, hread⟩ | ⟨-, -, -, hread⟩ |
    ⟨rest, hwritten, -, hread⟩ | ⟨-, hplain, hread⟩ <;> rw [hread] at h
  · cases h
  · cases h
  · obtain rfl := Except.ok.inj h
    rw [termName_of_negated hwritten]
    cases hf with
    | not hf =>
      cases hf
      rfl
  · obtain rfl := Except.ok.inj h
    rw [termName_of_plain hplain]
    cases hf
    rfl

/-- A clause mentions the flags of its terms. -/
theorem mentions_of_ofClause (h : ofClause resolve clause = .ok c) (hf : c.Mentions f) :
    ∃ term ∈ splitAt '|' clause, f = resolve (termName term) := by
  obtain ⟨parts, hparts, hc⟩ := ofClause_eq_ok h
  have hpart : ∃ part ∈ parts, part.Mentions f := by
    rcases hc with rfl | rfl
    · exact ⟨c, List.mem_singleton_self c, hf⟩
    · cases hf with
      | or hpart hf => exact ⟨_, hpart, hf⟩
  obtain ⟨part, hpart, hf⟩ := hpart
  obtain ⟨term, hterm, hread⟩ := exists_of_mem_values hparts hpart
  exact ⟨term, hterm, mentions_of_ofTerm hread hf⟩

/-- Clauses mention the flags of their terms. -/
theorem mentions_of_ofClauses {clauses : Clauses} (h : ofClauses resolve clauses = .ok c)
    (hf : c.Mentions f) :
    ∃ clause ∈ clauses, ∃ term ∈ splitAt '|' clause, f = resolve (termName term) := by
  obtain ⟨parts, hparts, hc⟩ := ofClauses_eq_ok h
  have hpart : ∃ part ∈ parts, part.Mentions f := by
    rcases hc with ⟨-, rfl⟩ | rfl | rfl
    · cases hf
    · exact ⟨c, List.mem_singleton_self c, hf⟩
    · cases hf with
      | and hpart hf => exact ⟨_, hpart, hf⟩
  obtain ⟨part, hpart, hf⟩ := hpart
  obtain ⟨clause, hclause, hread⟩ := exists_of_mem_values hparts hpart
  exact ⟨clause, hclause, mentions_of_ofClause hread hf⟩

/-- In a condition without faults no name has faults. -/
theorem flagFaults_of_conditionFaults {clauses : Clauses}
    (h : conditionFaults known context clauses = []) (hclause : clause ∈ clauses) :
    ∀ term ∈ splitAt '|' clause, flagFaults known context (termName term) = [] := by
  unfold conditionFaults at h
  rw [List.flatMap_eq_nil_iff] at h
  have h := h clause hclause
  unfold clauseFaults at h
  split at h
  · cases h
  · exact fun term hterm => (termFaults_eq_nil_iff.mp h term hterm).2

end Condition

/-! ## Names in a world -/

namespace Compile

variable {a : Authored.World} {f : Flag} {context checked : String}

/-- A condition without faults mentions flags with names only. -/
theorem named_of_condition {clauses : Authored.Clauses} {c : Condition}
    (hfaults : Authored.conditionFaults (.ofWorld a) checked clauses = [])
    (h : condition a context clauses = .ok c) (hf : c.Mentions f) : a.Names f := by
  obtain ⟨clause, hclause, term, hterm, hname⟩ :=
    Condition.mentions_of_ofClauses (mapError_eq_ok.mp h) hf
  exact ⟨checked, Authored.termName term,
    Condition.flagFaults_of_conditionFaults hfaults hclause term hterm, hname.symm⟩

/-- Every override was written with its condition. -/
theorem overrides_eq_ok {index : Nat} {written : List Authored.Override}
    {found : List (Condition × String)} (h : overrides a context index written = .ok found)
    {o : Condition × String} (ho : o ∈ found) :
    ∃ o' ∈ written, ∃ context, condition a context o'.when = .ok o.1 := by
  induction written generalizing index found with
  | nil =>
    obtain rfl := Except.ok.inj h
    exact (List.not_mem_nil ho).elim
  | cons first rest ih =>
    unfold overrides at h
    simp only [bind_eq_ok, pure_eq_ok] at h
    obtain ⟨c, hc, later, hlater, rfl⟩ := h
    rcases List.mem_cons.mp ho with rfl | ho
    · exact ⟨first, List.mem_cons_self .., _, hc⟩
    · obtain ⟨o', ho', hresolved⟩ := ih hlater ho
      exact ⟨o', List.mem_cons_of_mem _ ho', hresolved⟩

theorem named_of_description {d : Authored.Description} {d' : Description}
    (hfaults : Authored.descriptionFaults (.ofWorld a) checked d = [])
    (h : description a context d = .ok d') (hf : d'.Mentions f) : a.Names f := by
  unfold description at h
  simp only [bind_eq_ok, pure_eq_ok] at h
  obtain ⟨found, hfound, rfl⟩ := h
  obtain ⟨o, ho, hf⟩ := hf
  obtain ⟨o', ho', context', hresolved⟩ := overrides_eq_ok hfound ho
  unfold Authored.descriptionFaults at hfaults
  exact named_of_condition (List.flatMap_eq_nil_iff.mp hfaults o' ho') hresolved hf

theorem named_of_interaction {i : Authored.Interaction} {i' : Interaction}
    (hfaults : Authored.effectFaults (.ofWorld a) checked i = [])
    (h : interaction a context i = .ok i') (hf : i'.Mentions f) : a.Names f := by
  unfold Authored.effectFaults at hfaults
  simp only [List.append_eq_nil_iff, List.flatMap_eq_nil_iff] at hfaults
  obtain ⟨⟨⟨⟨⟨⟨hrequires, hmessage⟩, hflags⟩, -⟩, -⟩, -⟩, -⟩ := hfaults
  unfold interaction at h
  simp only [bind_eq_ok, pure_eq_ok] at h
  obtain ⟨message, hmessage', c, hc, rfl⟩ := h
  cases hf with
  | precondition hf => exact named_of_condition hrequires hc hf
  | message hd hf =>
    cases hwritten : i.message with
    | none =>
      rw [hwritten] at hmessage'
      cases hmessage'
      cases hd
    | some d =>
      rw [hwritten] at hmessage hmessage'
      rw [Option.mapM_some, map_eq_ok] at hmessage'
      obtain ⟨d', hd', rfl⟩ := hmessage'
      obtain rfl := Option.some.inj hd
      exact named_of_description hmessage hd' hf
  | granted hf =>
    obtain ⟨name, hname, rfl⟩ := List.mem_map.mp hf
    exact ⟨checked, name, hflags name (List.mem_append_left _ hname), rfl⟩
  | removed hf =>
    obtain ⟨name, hname, rfl⟩ := List.mem_map.mp hf
    exact ⟨checked, name, hflags name (List.mem_append_right _ hname), rfl⟩

end Compile

namespace World

variable {a : Authored.World} {w : World} {f : Flag}

/-- **Every mentioned flag** of a compiled world is what a name without faults stands for. -/
theorem named_of_mentions (h : World.compile a = .ok w) (hf : w.Mentions f) : a.Names f := by
  obtain ⟨hfaults, hresolved⟩ := compile_eq_ok h
  have ha := Authored.World.faultless hfaults
  cases hf with
  | initial hf =>
    rw [(rules_of_resolved hresolved).1] at hf
    obtain ⟨name, hname, rfl⟩ := List.mem_map.mp hf
    have hgame := ha.game
    unfold Authored.gameFaults at hgame
    simp only [List.append_eq_nil_iff, List.flatMap_eq_nil_iff] at hgame
    exact ⟨_, name, hgame.1.2 name hname, rfl⟩
  | exit hsc he hf =>
    obtain ⟨-, written, hmem, hok⟩ := scene_of_resolved hresolved hsc
    obtain ⟨e', he', hexit⟩ := exists_of_mem_values (Compile.scene_eq_ok hok).2 he
    have hscene := ha.scene written hmem
    unfold Authored.sceneFaults at hscene
    obtain ⟨-, context, hrequires⟩ :=
      Authored.parts_of_exitFaults (List.append_eq_nil_iff.mp hscene).2 e' he'
    unfold Compile.exit at hexit
    simp only [bind_eq_ok, pure_eq_ok] at hexit
    obtain ⟨c, hc, rfl⟩ := hexit
    exact Compile.named_of_condition hrequires hc hf
  | scene hsc hf =>
    obtain ⟨-, written, hmem, hok⟩ := scene_of_resolved hresolved hsc
    have hscene := ha.scene written hmem
    unfold Authored.sceneFaults at hscene
    unfold Compile.scene at hok
    simp only [bind_eq_ok, pure_eq_ok] at hok
    obtain ⟨_, -, d, hd, rfl⟩ := hok
    exact Compile.named_of_description (List.append_eq_nil_iff.mp hscene).1 hd hf
  | object ho hf =>
    obtain ⟨-, written, hmem, hok⟩ := object_of_resolved hresolved ho
    have hobject := ha.object written hmem
    unfold Authored.objectFaults at hobject
    simp only [List.append_eq_nil_iff] at hobject
    unfold Compile.object at hok
    simp only [bind_eq_ok, pure_eq_ok] at hok
    obtain ⟨_, -, d, hd, rfl⟩ := hok
    exact Compile.named_of_description hobject.1.1.1.2 hd hf
  | interaction ho hi hf =>
    obtain ⟨written, -, -, ⟨checked, heffects⟩, context, hinteraction⟩ :=
      interaction_of_resolved hresolved ha ho hi
    exact Compile.named_of_interaction heffects hinteraction hf

/-- What a flag with a name without faults is about exists. -/
theorem knows_of_named (h : World.ofAuthored a = .ok w) (hf : a.Names f) : w.Knows f := by
  obtain ⟨context, name, hname, rfl⟩ := hf
  have hknown := knows_flag h hname
  exact hknown

/-- **A compiled world** gives out known flags only. -/
theorem flagwise_of_compile (h : World.compile a = .ok w) : w.Flagwise := by
  have hresolved := (compile_eq_ok h).2
  exact ⟨fun _ hf => knows_of_named hresolved (named_of_mentions h (.initial hf)),
    fun _ _ _ _ ho hi _ hf =>
      knows_of_named hresolved (named_of_mentions h (.interaction ho hi (.granted hf)))⟩

end World

end TextAdventure
