import TextAdventure.Proofs.Play.Safety

/-!
# Every command has an answer

In a coherent world, from a well-placed state with the player in a scene, planning always comes to
a refusal or to a grounded action (`plan_ok`), exits lead somewhere (`findExit_ok`), and so every
command is answered (`perform_ok`, `execute_answers`): a command may be refused, but the game
never breaks off.
-/

namespace TextAdventure

open Std GameState

variable {w : World} {s : GameState} {a : Action} {messages : Messages}

/-! ## Planning -/

namespace Action

theorem toolRefusal_ok {i : Interaction} {tools : List Id}
    (h : ∀ tool ∈ tools, w.hasObject tool = true) : ∃ r, toolRefusal w s i tools = .ok r := by
  induction tools with
  | nil => exact ⟨none, rfl⟩
  | cons tool rest ih =>
    obtain ⟨name, hname⟩ := World.nameOf_ok (h tool (List.mem_cons_self ..))
    unfold toolRefusal
    split
    · exact ih fun tool htool => h tool (List.mem_cons_of_mem _ htool)
    · rw [hname]
      exact ⟨_, rfl⟩

theorem entryRefusal_ok (ha : a.Grounded w) (messages : Messages) (s : GameState) :
    ∃ r, a.entryRefusal w messages s = .ok r := by
  unfold entryRefusal
  split
  · exact ⟨none, rfl⟩
  · rename_i i hi
    obtain ⟨r, hr⟩ := toolRefusal_ok (s := s) (i := i) (ha.entry i hi).tools
    rw [hr, ok_bind]
    split
    · exact ⟨_, rfl⟩
    · split
      · exact ⟨_, rfl⟩
      · exact ⟨_, rfl⟩

theorem builtinRefusal_ok (ha : a.Grounded w) (hs : WellPlaced w s)
    (hhere : w.hasScene s.currentScene = true) : ∃ r, a.builtinRefusal w s = .ok r := by
  unfold builtinRefusal
  split
  · split
    · exact ⟨_, rfl⟩
    · exact ⟨_, rfl⟩
    · rename_i cause h
      exact (faultFree_builtinPart ha hs hhere cause h).elim
  · exact ⟨_, rfl⟩

/-- Checking an action comes to a refusal or to the action itself. -/
theorem check_ok (ha : a.Grounded w) (hs : WellPlaced w s)
    (hhere : w.hasScene s.currentScene = true) :
    ∃ plan, a.check w messages s = .ok plan ∧ ∀ b, plan = .act b → b = a := by
  -- the built-in part is tried on a copy of the state
  obtain ⟨r, hr⟩ := entryRefusal_ok ha messages s
  obtain ⟨r', hr'⟩ := builtinRefusal_ok ha hs hhere
  unfold check
  split
  · exact ⟨_, rfl, fun b h => by cases h⟩
  · split
    · exact ⟨_, rfl, fun b h => by cases h⟩
    · rw [hr, ok_bind]
      split
      · exact ⟨_, rfl, fun b h => by cases h⟩
      · rw [hr', ok_bind]
        split
        · exact ⟨_, rfl, fun b h => by cases h⟩
        · exact ⟨_, rfl, fun b h => (Plan.act.inj h).symm⟩

/-- An action on objects of a coherent world is grounded. -/
theorem grounded_on (hw : w.Coherent) (verb : Verb) {o : Object} {target : Option Object} {id : Id}
    (ho : w.objects[id]? = some o)
    (htarget : ∀ t, target = some t → ∃ id : Id, w.objects[id]? = some t) :
    (Action.on verb o target).Grounded w where
  object := by
    show w.objects[o.id]? = some o
    rw [hw.key id o ho]
    exact ho
  target t ht := by
    obtain ⟨id, hid⟩ := htarget t ht
    rw [hw.key id t hid]
    exact hid
  entry i hi := hw.entries id o verb i ho hi

end Action

namespace GameState

/-- Checking an action on objects of the world comes to a refusal or to a grounded action. -/
theorem check_on_ok (hw : w.Coherent) (hs : WellPlaced w s)
    (hhere : w.hasScene s.currentScene = true) (verb : Verb) {o : Object} {target : Option Object}
    {id : Id} (ho : w.objects[id]? = some o)
    (htarget : ∀ t, target = some t → ∃ id : Id, w.objects[id]? = some t) :
    ∃ plan, (Action.on verb o target).check w messages s = .ok plan ∧
      ∀ a, plan = .act a → a.Grounded w := by
  have hground := Action.grounded_on hw verb ho htarget
  obtain ⟨plan, hplan, hact⟩ := Action.check_ok hground hs hhere
  exact ⟨plan, hplan, fun a ha => hact a ha ▸ hground⟩

/-- Planning comes to a refusal or to a grounded action. -/
theorem plan_ok (hw : w.Coherent) (hs : WellPlaced w s)
    (hhere : w.hasScene s.currentScene = true) (messages : Messages) (command : Command) :
    ∃ plan, s.plan w messages command = .ok plan ∧ ∀ a, plan = .act a → a.Grounded w := by
  unfold plan
  simp only
  split
  · exact ⟨_, rfl, fun a h => by cases h⟩
  · rename_i noun _
    obtain ⟨located, hlocated, hobject⟩ := locate_ok hs.toPlaced hhere messages noun
    rw [hlocated, ok_bind]
    cases located with
    | refused message => exact ⟨_, rfl, fun a h => by cases h⟩
    | object o =>
      obtain ⟨id, ho⟩ := hobject o rfl
      cases htarget : Command.noun? command.target with
      | none =>
        simp only [Option.mapM_none, pure_bind]
        exact check_on_ok hw hs hhere (Verb.ofText command.verb) ho fun t h => by cases h
      | some noun' =>
        obtain ⟨located', hlocated', hobject'⟩ := locate_ok hs.toPlaced hhere messages noun'
        simp only [Option.mapM_some, hlocated', map_ok, ok_bind]
        cases located' with
        | refused message => exact ⟨_, rfl, fun a h => by cases h⟩
        | object t =>
          refine check_on_ok hw hs hhere (Verb.ofText command.verb) ho fun t' h => ?_
          obtain rfl := Option.some.inj h
          exact hobject' t rfl

/-- A command about an object is answered. -/
theorem act_ok (hw : w.Coherent) (hs : WellPlaced w s) (hhere : w.hasScene s.currentScene = true)
    (command : Command) : ∃ r, (s.act w messages command).1 = .ok r := by
  obtain ⟨plan, hplan, hground⟩ := plan_ok hw hs hhere messages command
  unfold act
  rw [hplan]
  cases plan with
  | refused message => exact ⟨_, rfl⟩
  | act a =>
    have hfree := Action.faultFree_apply hw (hground a rfl) hs hhere
    simp only
    split
    · rename_i cause h
      exact (hfree cause h).elim
    · exact ⟨_, rfl⟩
    · rename_i after lines happly
      obtain ⟨log, hdeed⟩ := Action.deed_of_apply happly
      obtain ⟨text, htext⟩ :=
        a.message_ok (hdeed.moved.placed hs.toPlaced) (hdeed.here hhere) messages
      rw [htext]
      exact ⟨_, rfl⟩

end GameState

/-! ## Exits -/

namespace World

theorem exitByWords_ok {exits : List Exit} (h : ∀ e ∈ exits, w.hasScene e.destination = true)
    (wanted : String) :
    ∃ found, w.exitByWords wanted exits = .ok found ∧ ∀ e, found = some e → e ∈ exits := by
  induction exits with
  | nil => exact ⟨none, rfl, fun e he => by cases he⟩
  | cons first rest ih =>
    obtain ⟨target, htarget⟩ := hasScene_iff.mp (h first (List.mem_cons_self ..))
    unfold exitByWords
    rw [scene_eq_ok.mpr htarget, ok_bind]
    split
    · refine ⟨some first, rfl, fun e he => ?_⟩
      rw [← Option.some.inj he]
      exact List.mem_cons_self ..
    · obtain ⟨found, hfound, hmem⟩ := ih fun e he => h e (List.mem_cons_of_mem _ he)
      exact ⟨found, hfound, fun e he => List.mem_cons_of_mem _ (hmem e he)⟩

/-- Looking for an exit goes through, and one that is found leads to a scene. -/
theorem findExit_ok (hw : w.Coherent) {scene : Id} (hscene : w.hasScene scene = true)
    (token : String) : ∃ found, w.findExit scene token = .ok found ∧
      ∀ e, found = some e → w.hasScene e.destination = true := by
  obtain ⟨sc, hsc⟩ := hasScene_iff.mp hscene
  have hexits := hw.exits scene sc hsc
  unfold findExit
  rw [scene_eq_ok.mpr hsc, ok_bind]
  simp only
  split
  · exact ⟨none, rfl, fun e he => by cases he⟩
  · split
    · rename_i e he
      refine ⟨some e, rfl, fun e' he' => ?_⟩
      rw [← Option.some.inj he']
      exact hexits e (List.mem_of_find?_eq_some he)
    · split
      · exact ⟨none, rfl, fun e he => by cases he⟩
      · obtain ⟨found, hfound, hmem⟩ := exitByWords_ok hexits (normalizeDirection token)
        exact ⟨found, hfound, fun e he => hexits e (hmem e he)⟩

end World

namespace GameState

theorem passage_ok (hs : Placed w s) (hhere : w.hasScene s.currentScene = true)
    (messages : Messages) (e : Exit) : ∃ passage, s.passage w messages e = .ok passage := by
  obtain ⟨lit, hlit⟩ := hasLight_ok hs.known hhere
  unfold passage
  rw [hlit, ok_bind]
  split
  · exact ⟨_, rfl⟩
  · split
    · exact ⟨_, rfl⟩
    · exact ⟨_, rfl⟩

theorem traverse_ok (hw : w.Coherent) (hs : Placed w s) {e : Exit}
    (he : w.hasScene e.destination = true) : ∃ arrival, (s.traverse w e).1 = .ok arrival := by
  obtain ⟨sc, hsc⟩ := World.hasScene_iff.mp he
  obtain ⟨arrival, t, h⟩ := traverse_ok_of_held hs.known hsc (hw.exits _ sc hsc)
  exact ⟨arrival, by rw [h]⟩

/-- Going somewhere is answered. -/
theorem go_ok (hw : w.Coherent) (hs : Placed w s) (hhere : w.hasScene s.currentScene = true)
    (token : String) : ∃ r, (s.go w messages token).1 = .ok r := by
  obtain ⟨found, hfound, hscene⟩ := World.findExit_ok hw hhere token
  unfold go
  rw [hfound]
  cases found with
  | none => exact ⟨_, rfl⟩
  | some e =>
    obtain ⟨passage, hpassage⟩ := passage_ok hs hhere messages e
    simp only [hpassage]
    cases passage with
    | blocked message => exact ⟨_, rfl⟩
    | allowed =>
      obtain ⟨arrival, harrival⟩ := traverse_ok hw hs (hscene e rfl)
      simp only
      split
      · rename_i cause t heq
        rw [heq] at harrival
        cases harrival
      · exact ⟨_, rfl⟩

theorem answerFreely_ok {text : Except WorldError String} (h : ∃ t, text = .ok t) :
    ∃ r, (s.answerFreely text).1 = .ok r := by
  obtain ⟨t, rfl⟩ := h
  exact ⟨.free t, rfl⟩

/-- **Every command is answered**, before the end of its turn. -/
theorem perform_ok (hw : w.Coherent) (hs : WellPlaced w s)
    (hhere : w.hasScene s.currentScene = true) (settings : Settings) (command : Command) :
    ∃ r, (s.perform w settings command).1 = .ok r := by
  obtain ⟨sc, hsc⟩ := World.hasScene_iff.mp hhere
  obtain ⟨view, hview⟩ :=
    sceneView_ok hs.known hhere hsc (hw.exits s.currentScene sc hsc)
  unfold perform
  simp only
  split
  · split
    · exact go_ok hw hs.toPlaced hhere _
    · exact act_ok hw hs hhere command
  · split
    · exact answerFreely_ok ⟨view.text, by rw [hview]; rfl⟩
    · split
      · exact answerFreely_ok (inventoryText_ok hs.toPlaced hhere _)
      · split
        · exact answerFreely_ok ⟨_, rfl⟩
        · split
          · exact ⟨_, rfl⟩
          · split
            · exact ⟨_, rfl⟩
            · split
              · exact go_ok hw hs.toPlaced hhere _
              · exact act_ok hw hs hhere command

/-- **Every command is answered.** -/
theorem execute_answers (hw : w.Coherent) (hs : WellPlaced w s)
    (hhere : w.hasScene s.currentScene = true) (settings : Settings) (command : Command) :
    ∃ r, (s.execute w settings command).1 = .ok r :=
  execute_ok hs.toPlaced hhere (perform_ok hw hs hhere settings command)

end GameState

end TextAdventure
