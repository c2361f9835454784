import TextAdventure.Proofs.Play.Handling
import TextAdventure.Proofs.State.Trees

/-!
# What has to be allowed

What must have held in the state in which a command is given, for it to have had the effect that
it had.

* **objects** — a command about an object succeeds only when it is `Permitted`: what its nouns
  stand for is present and seen, the verb means something, and the needs of the interaction are
  met (`permitted_of_act`). All this is asked before anything changes, of one and the same state;
* **scenes** — a command leads into another scene only when the player `Walks` there, in the light
  and through an exit whose condition holds, or is `Sent` there by an interaction
  (`leads_of_execute`).
-/

namespace TextAdventure

open Std Relation GameState

variable {w : World} {s t : GameState} {messages : Messages} {settings : Settings}
  {command : Command} {noun token : String}

/-! ## Nouns -/

/-- The noun stands for the object: it is what is found by that name among what is present. -/
structure StandsFor (w : World) (s : GameState) (noun : String) (o : Object) : Prop where
  known : w.objects[o.id]? = some o
  found : s.findPresent w noun = .ok (some o.id)
  named : o.isNamed noun = true

/-- The object is present and seen in the light there is. -/
structure InSight (w : World) (s : GameState) (o : Object) : Prop where
  present : s.isPresent o.id = true
  light : o.requiresLight = true → s.hasLight w = .ok true
  shown : s.carries o.id = true ∨ o.visibleOnEntry = true ∨
    s.flags.has (.objectRevealed o.id) = true
  reached : ∀ c, TransGen s.Inside o.id c → s.isOpen c = true

namespace GameState

/-- What is found among objects is one of them and has the name, or was found before. -/
theorem findAmong_eq_some {lit : Bool} {name : String} {unseen : Option Id} {ids : List Id}
    {id : Id} (h : s.findAmong w lit name unseen ids = .ok (some id)) :
    (id ∈ ids ∧ ∃ o, w.objects[id]? = some o ∧ o.isNamed name = true) ∨ unseen = some id := by
  induction ids generalizing unseen with
  | nil => exact .inr (pure_eq_ok.mp h)
  | cons first rest ih =>
    have hlater : ∀ {unseen}, s.findAmong w lit name unseen rest = .ok (some id) →
        (id ∈ first :: rest ∧ ∃ o, w.objects[id]? = some o ∧ o.isNamed name = true) ∨
          unseen = some id :=
      fun h => (ih h).imp_left fun ⟨hmem, hnamed⟩ => ⟨List.mem_cons_of_mem _ hmem, hnamed⟩
    unfold findAmong at h
    simp only [bind_eq_ok, World.object_eq_ok] at h
    obtain ⟨o, ho, h⟩ := h
    by_cases hnamed : o.isNamed name = true
    · have hfirst : first ∈ first :: rest ∧
          ∃ o, w.objects[first]? = some o ∧ o.isNamed name = true :=
        ⟨List.mem_cons_self .., o, ho, hnamed⟩
      simp only [hnamed, Bool.not_true, Bool.false_eq_true, if_false, bind_eq_ok] at h
      obtain ⟨seen, -, h⟩ := h
      cases seen with
      | true =>
        obtain rfl := Option.some.inj (pure_eq_ok.mp h)
        exact .inl hfirst
      | false =>
        -- out of sight: it is taken only if nothing was found before it
        rcases hlater h with hrest | hunseen
        · exact .inl hrest
        · cases unseen with
          | none =>
            obtain rfl := Option.some.inj hunseen
            exact .inl hfirst
          | some before => exact .inr hunseen
    · simp only [hnamed, Bool.not_false, if_true] at h
      exact hlater h

/-- What a name stands for is present and has the name. -/
theorem findPresent_eq_some {id : Id} (h : s.findPresent w noun = .ok (some id)) :
    id ∈ s.present ∧ ∃ o, w.objects[id]? = some o ∧ o.isNamed noun = true := by
  unfold findPresent at h
  rw [bind_eq_ok] at h
  obtain ⟨lit, -, h⟩ := h
  exact (findAmong_eq_some h).resolve_right nofun

/-- An object that is seen in some light needs none or has it, and shows. -/
theorem isVisibleIn_eq_ok_true {lit : Bool} {id : Id} {o : Object} (ho : w.objects[id]? = some o)
    (h : s.isVisibleIn w lit id = .ok true) : (o.requiresLight = true → lit = true) ∧
      (s.carries id = true ∨ o.visibleOnEntry = true ∨
        s.flags.has (.objectRevealed id) = true) := by
  unfold isVisibleIn at h
  simp only [World.object_eq_ok.mpr ho, ok_bind, pure_eq_ok, Bool.and_eq_true,
    Bool.or_eq_true] at h
  obtain ⟨⟨hlight, hshown⟩, -⟩ := h
  refine ⟨fun hneeds => ?_, ?_⟩
  · simpa [hneeds] using hlight
  · rcases hshown with (hcarried | hentry) | hrevealed
    · exact .inl hcarried
    · exact .inr (.inl hentry)
    · exact .inr (.inr hrevealed)

/-- A noun that can be acted on stands for an object in sight. -/
theorem inSight_of_locate (hw : w.Coherent) (hs : s.OneHolder) {o : Object}
    (h : s.locate w messages noun = .ok (.object o)) : StandsFor w s noun o ∧ InSight w s o := by
  have hreached := open_around hw hs h
  obtain ⟨id, lit, hfound, ho, hlit, hseen, -⟩ := locate_eq_object h
  obtain rfl := hw.key id o ho
  obtain ⟨hpresent, o', ho', hnamed⟩ := findPresent_eq_some hfound
  obtain rfl : o' = o := Option.some.inj (ho'.symm.trans ho)
  obtain ⟨hlight, hshown⟩ := isVisibleIn_eq_ok_true ho hseen
  refine ⟨⟨ho, hfound, hnamed⟩, (mem_present_iff hs).mp hpresent, fun hneeds => ?_, hshown,
    hreached⟩
  rw [hlit, hlight hneeds]

end GameState

/-! ## Commands about objects -/

/-- The command may be carried out on the object. -/
structure Permitted (w : World) (s : GameState) (command : Command) (o : Object) : Prop where
  /-- The noun of the command stands for the object, which is in sight. -/
  object : ∃ noun, Command.noun? command.object = some noun ∧ StandsFor w s noun o ∧ InSight w s o
  /-- So does the other noun, if there is one, for another object. -/
  target : ∀ noun, Command.noun? command.target = some noun →
    ∃ t, StandsFor w s noun t ∧ InSight w s t
  /-- The verb does something to every such object, or something is written for it. -/
  meant : (Verb.ofText command.verb).appliesTo o = true ∨
    (o.interactions[Verb.ofText command.verb]?).isSome = true
  /-- What is written for the verb has the tools that it needs, all in the player's hands, and its
  condition holds. -/
  needs : ∀ i, o.interactions[Verb.ofText command.verb]? = some i →
    (∀ tool ∈ i.requiresHeld, s.carries tool = true) ∧ i.precondition.holds s.flags = true

theorem carries_of_toolRefusal {i : Interaction} {tools : List Id}
    (h : toolRefusal w s i tools = .ok none) : ∀ tool ∈ tools, s.carries tool = true := by
  induction tools with
  | nil => exact fun tool htool => (List.not_mem_nil htool).elim
  | cons first rest ih =>
    unfold toolRefusal at h
    by_cases hfirst : s.carries first = true
    · rw [if_pos hfirst] at h
      intro tool htool
      rcases List.mem_cons.mp htool with rfl | htool
      · exact hfirst
      · exact ih h tool htool
    · rw [if_neg hfirst, bind_eq_ok] at h
      obtain ⟨name, -, h⟩ := h
      cases pure_eq_ok.mp h

/-- An interaction that is not refused has its tools, and its condition holds. -/
theorem needs_of_entryRefusal {a : Action} {i : Interaction} (hi : a.entry = some i)
    (h : a.entryRefusal w messages s = .ok none) :
    (∀ tool ∈ i.requiresHeld, s.carries tool = true) ∧ i.precondition.holds s.flags = true := by
  unfold Action.entryRefusal at h
  simp only [hi, bind_eq_ok] at h
  obtain ⟨refusal, htools, h⟩ := h
  cases refusal with
  | some message => cases pure_eq_ok.mp h
  | none =>
    by_cases hholds : i.precondition.holds s.flags = true
    · exact ⟨carries_of_toolRefusal htools, hholds⟩
    · simp only [hholds] at h
      cases pure_eq_ok.mp h

/-- **What is planned is permitted.** -/
theorem Planned.permitted {a : Action} (hw : w.Coherent) (hs : s.OneHolder)
    (h : Planned w messages s command a) : Permitted w s command a.object where
  object := by
    obtain ⟨noun, hnoun, hlocated⟩ := h.object
    exact ⟨noun, hnoun, inSight_of_locate hw hs hlocated⟩
  target noun hnoun := by
    obtain ⟨o, -, hlocated⟩ := h.target noun hnoun
    exact ⟨o, inSight_of_locate hw hs hlocated⟩
  meant := by
    have hmeant := h.meant
    rw [h.builtin, h.entry, h.verb] at hmeant
    exact hmeant
  needs i hi := by
    refine needs_of_entryRefusal ?_ h.unrefused
    rw [h.entry, h.verb]
    exact hi

namespace GameState

/-- A command about an object leaves the state as it was, or carries out what was planned. -/
theorem act_cases (s : GameState) (w : World) (messages : Messages) (command : Command) :
    (s.act w messages command).2 = s ∧ (∀ r, (s.act w messages command).1 = .ok r →
        r.success = false) ∨
      ∃ a lines, s.plan w messages command = .ok (.act a) ∧
        a.apply w s = .ok ((s.act w messages command).2, lines) := by
  unfold act
  split
  · exact .inl ⟨rfl, fun r hr => by cases hr⟩
  · refine .inl ⟨rfl, fun r hr => ?_⟩
    rw [← Except.ok.inj hr]
    rfl
  · rename_i a hplan
    split
    · exact .inl ⟨rfl, fun r hr => by cases hr⟩
    · refine .inl ⟨rfl, fun r hr => ?_⟩
      rw [← Except.ok.inj hr]
      rfl
    · rename_i after lines happly
      refine .inr ⟨a, lines, hplan, ?_⟩
      split
      · exact happly
      · exact happly

/-- A command about an object that succeeds was permitted. -/
theorem permitted_of_act (hw : w.Coherent) (hs : s.OneHolder) {r : Response}
    (h : (s.act w messages command).1 = .ok r) (hsuccess : r.success = true) :
    ∃ o, Permitted w s command o := by
  rcases act_cases s w messages command with ⟨-, hfailure⟩ | ⟨a, lines, hplan, -⟩
  · rw [hfailure r h] at hsuccess
    cases hsuccess
  · exact ⟨a.object, (planned_of_plan hplan).permitted hw hs⟩

end GameState

/-! ## Going and being sent -/

/-- The player walks into the scene: there is light, and the exit that the command means leads
there from the current scene and its condition holds. -/
structure Walks (w : World) (s : GameState) (command : Command) (scene : Id) : Prop where
  light : s.hasLight w = .ok true
  exit : ∃ token here e, command.heading? = some token ∧
    w.scenes[s.currentScene]? = some here ∧ e ∈ here.exits ∧
    w.findExit s.currentScene token = .ok (some e) ∧ e.precondition.holds s.flags = true ∧
    e.destination = scene

/-- An interaction that the command carries out sends the player into the scene. -/
def Sent (w : World) (messages : Messages) (s : GameState) (command : Command) (scene : Id) :
    Prop :=
  command.heading? = none ∧ ∃ a i after lines, s.plan w messages command = .ok (.act a) ∧
    a.apply w s = .ok (after, lines) ∧ a.entry = some i ∧ i.targetScene = some scene

namespace GameState

/-- An exit can be taken in the light when its condition holds, and not otherwise. -/
theorem passage_eq_allowed_iff {e : Exit} : s.passage w messages e = .ok .allowed ↔
    s.hasLight w = .ok true ∧ e.precondition.holds s.flags = true := by
  unfold passage
  cases hlit : s.hasLight w with
  | error cause => simp [bind, Except.bind]
  | ok lit =>
    rw [ok_bind]
    cases lit <;> cases e.precondition.holds s.flags <;> simp [pure, Except.pure]

/-- Going somewhere leaves the state as it was, or leads through an exit that can be taken. -/
theorem go_cases (s : GameState) (w : World) (messages : Messages) (token : String) :
    (s.go w messages token).2 = s ∨
      ∃ e, w.findExit s.currentScene token = .ok (some e) ∧ s.hasLight w = .ok true ∧
        e.precondition.holds s.flags = true ∧
        (s.go w messages token).2.currentScene = e.destination := by
  unfold go
  split
  · exact .inl rfl
  · exact .inl rfl
  · rename_i e hexit
    split
    · exact .inl rfl
    · exact .inl rfl
    · rename_i hpassage
      obtain ⟨hlit, hholds⟩ := passage_eq_allowed_iff.mp hpassage
      split
      · exact .inl rfl
      · rename_i arrival after htraverse
        obtain ⟨-, _, _, rfl⟩ := traverse_eq htraverse
        exact .inr ⟨e, hexit, hlit, hholds, rfl⟩

end GameState

/-- An action leads into no scene but the one that its interaction names. -/
theorem Action.currentScene_apply {a : Action} {lines : List String}
    (h : a.apply w s = .ok (t, lines)) : t.currentScene = s.currentScene ∨
      ∃ i, a.entry = some i ∧ i.targetScene = some t.currentScene := by
  obtain ⟨s₁, s₂, trophies, s₃, s₄, arrival, hstate, hmarks, hmoves, hlit, hscene, -⟩ :=
    apply_eq_ok h
  -- no stage but the last changes the scene
  have hbefore : s₄.currentScene = s.currentScene := by
    obtain ⟨_, _, hmarked⟩ :=
      (onlyFlags_changeState hstate).onlyMarks.trans (onlyMarks_leaveMarks hmarks)
    obtain ⟨_, hrelit⟩ := onlyFlags_relit hlit
    rw [hrelit]
    show s₃.currentScene = _
    rw [(sameBesides_moveObjects hmoves).currentScene, hmarked]
  unfold changeScene at hscene
  split at hscene
  · rename_i scene htarget
    split at hscene
    · rename_i text u hu
      obtain ⟨rfl, -⟩ := Prod.mk.inj (Except.ok.inj hscene)
      obtain ⟨-, _, rfl⟩ := enterScene_eq hu
      exact .inr (Option.bind_eq_some_iff.mp htarget)
    · cases hscene
  · obtain ⟨rfl, -⟩ := Prod.mk.inj (Except.ok.inj hscene)
    exact .inl hbefore

namespace GameState

/-- The end of a turn leads nowhere. -/
theorem currentScene_endTurn (out : Except WorldError Response × GameState) :
    (endTurn w settings out).2.currentScene = out.2.currentScene := by
  unfold endTurn
  split
  · rfl
  · split
    · rfl
    · simp only
      split
      · rfl
      · rename_i u events htick
        obtain ⟨_, _, rfl⟩ := onlyBurnt_tick htick
        split <;> rfl

/-- The end of a turn changes nothing about the success of a command. -/
theorem success_endTurn {out : Except WorldError Response × GameState} {r : Response}
    (h : (endTurn w settings out).1 = .ok r) : ∃ r', out.1 = .ok r' ∧ r'.success = r.success := by
  unfold endTurn at h
  split at h
  · cases h
  · rename_i response u
    split at h
    · exact ⟨response, rfl, congrArg _ (Except.ok.inj h)⟩
    · simp only at h
      split at h
      · cases h
      · split at h
        · cases h
        · rw [← Except.ok.inj h]
          exact ⟨response, rfl, rfl⟩

/-- **A command that leads into another scene** is licensed: the player walks there, or is sent
there. -/
theorem leads_of_execute (settings : Settings)
    (h : (s.execute w settings command).2.currentScene ≠ s.currentScene) :
    Walks w s command (s.execute w settings command).2.currentScene ∨
      Sent w settings.messages s command (s.execute w settings command).2.currentScene := by
  unfold execute at h ⊢
  rw [currentScene_endTurn] at h ⊢
  rcases perform_cases s w settings command with
    ⟨hsame, -⟩ | ⟨token, htoken, hgo⟩ | ⟨htoken, hact⟩
  · exact (h (congrArg _ hsame)).elim
  · rw [hgo] at h ⊢
    rcases go_cases s w settings.messages token with hsame | ⟨e, hexit, hlit, hholds, hscene⟩
    · exact (h (congrArg _ hsame)).elim
    · obtain ⟨here, hhere, he⟩ := mem_of_findExit hexit
      exact .inl ⟨hlit, token, here, e, htoken, hhere, he, hexit, hholds, hscene.symm⟩
  · rw [hact] at h ⊢
    rcases act_cases s w settings.messages command with ⟨hsame, -⟩ | ⟨a, lines, hplan, happly⟩
    · exact (h (congrArg _ hsame)).elim
    · rcases Action.currentScene_apply happly with hsame | ⟨i, hi, htarget⟩
      · exact (h hsame).elim
      · exact .inr ⟨htoken, a, i, _, lines, hplan, happly, hi, htarget⟩

/-- **A command about an object that succeeds** was permitted. -/
theorem permitted_of_execute (hw : w.Coherent) (hs : s.OneHolder) {r : Response}
    (hnoun : Command.noun? command.object = some noun) (hgoes : command.goes = false)
    (h : (s.execute w settings command).1 = .ok r) (hsuccess : r.success = true) :
    ∃ o, Permitted w s command o := by
  unfold execute at h
  obtain ⟨r', hr', heq⟩ := success_endTurn h
  rw [perform_of_noun hnoun, hgoes] at hr'
  exact permitted_of_act hw hs hr' (heq.trans hsuccess)

end GameState

end TextAdventure
