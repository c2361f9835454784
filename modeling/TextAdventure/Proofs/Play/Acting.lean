import TextAdventure.Proofs.Play.Effects

/-!
# What a command changes

A command that goes through is a `Deed`: a log of moves accounts for what it does to the holders,
it leaves turns and batteries alone, and it leads into scenes that exist only. `Performed` lists
the ways in which a command can end, and `performed` says that there is no other: whenever a
command fails, is refused or takes no time, the state is the one before it. `Executed` says the
same with the end of the turn.
-/

namespace TextAdventure

open Std GameState

variable {w : World} {s t u : GameState} {log log' : List Move}

/-- What a command that goes through does to the state, before time passes. -/
structure Deed (w : World) (s : GameState) (log : List Move) (t : GameState) : Prop where
  moved : Moved w s log t
  turnCount : t.turnCount = s.turnCount
  lightUsage : t.lightUsage = s.lightUsage
  here : w.hasScene s.currentScene = true → w.hasScene t.currentScene = true

namespace Deed

theorem append (h : Deed w s log t) (h' : Deed w t log' u) : Deed w s (log ++ log') u where
  moved := h.moved.append h'.moved
  turnCount := h'.turnCount.trans h.turnCount
  lightUsage := h'.lightUsage.trans h.lightUsage
  here hs := h'.here (h.here hs)

theorem of_onlyMarks (h : OnlyMarks s t) : Deed w s [] t where
  moved := .still h.sameHolders
  turnCount := by
    obtain ⟨_, _, rfl⟩ := h
    rfl
  lightUsage := by
    obtain ⟨_, _, rfl⟩ := h
    rfl
  here := by
    obtain ⟨_, _, rfl⟩ := h
    exact id

theorem of_onlyFlags (h : OnlyFlags s t) : Deed w s [] t := of_onlyMarks h.onlyMarks

theorem of_sameBesides (hmoved : Moved w s log t) (h : SameBesides s t) : Deed w s log t where
  moved := hmoved
  turnCount := h.turnCount
  lightUsage := h.lightUsage
  here := by
    rw [h.currentScene]
    exact id

theorem of_move {byHand : Bool} {item : Id} {p : Place} (h : s.move w byHand item p = .ok t) :
    Deed w s [⟨s, byHand, item, p, t⟩] t :=
  of_sameBesides (.single h) (sameBesides_move h)

/-- Going into a scene that exists. -/
theorem of_scene {scene : Id} {flags : FlagSet} {score : Nat} (h : w.hasScene scene = true) :
    Deed w s [] { s with currentScene := scene, flags, score } where
  moved := .still ⟨rfl, rfl, rfl⟩
  turnCount := rfl
  lightUsage := rfl
  here _ := h

end Deed

/-! ## The stages of an action -/

namespace GameState

variable {item : Id} {p : Place}

/-- Taking an object is one move of it. -/
theorem move_of_pickUp (h : s.pickUp w item = .ok t) : s.move w true item .inventory = .ok t := by
  rw [pickUp_eq, bind_eq_ok] at h
  obtain ⟨_, -, h⟩ := h
  exact h

/-- Putting an object down is one move of it. -/
theorem move_of_putDown (h : s.putDown w item p = .ok t) : s.move w true item p = .ok t := by
  rw [putDown_eq, bind_eq_ok] at h
  obtain ⟨_, -, h⟩ := h
  exact h

end GameState

namespace Action

variable {a : Action} {i : Interaction} {trophies : List String}

theorem onlyFlags_builtinState (h : a.builtinState w s = .ok t) : OnlyFlags s t := by
  unfold builtinState at h
  split at h
  · exact onlyFlags_changeLid (mapError_eq_ok.mp h)
  · exact onlyFlags_changeLid (mapError_eq_ok.mp h)
  · exact onlyFlags_changeLid (mapError_eq_ok.mp h)
  · exact onlyFlags_changeLid (mapError_eq_ok.mp h)
  · exact onlyFlags_switchOn (mapError_eq_ok.mp h)
  · exact onlyFlags_switchOff (mapError_eq_ok.mp h)
  · rw [← Except.ok.inj h]
    exact .rfl

theorem deed_of_builtinMove (h : a.builtinMove w s = .ok t) : ∃ log, Deed w s log t := by
  unfold builtinMove at h
  split at h
  · exact ⟨_, .of_move (move_of_pickUp (mapError_eq_ok.mp h))⟩
  · exact ⟨_, .of_move (move_of_putDown (mapError_eq_ok.mp h))⟩
  · split at h
    · split at h
      · exact ⟨_, .of_move (move_of_putDown (mapError_eq_ok.mp h))⟩
      · cases h
    · rw [← Except.ok.inj h]
      exact ⟨[], .of_onlyFlags .rfl⟩
  · rw [← Except.ok.inj h]
    exact ⟨[], .of_onlyFlags .rfl⟩

theorem deed_of_applyTransfers {transfers : List Authored.Transfer}
    (h : applyTransfers w s transfers = .ok t) : ∃ log, Deed w s log t := by
  induction transfers generalizing s with
  | nil =>
    obtain rfl := pure_eq_ok.mp h
    exact ⟨[], .of_onlyFlags .rfl⟩
  | cons transfer rest ih =>
    unfold applyTransfers at h
    split at h
    · rename_i u hu
      obtain ⟨log, hrest⟩ := ih h
      exact ⟨_, (Deed.of_move hu).append hrest⟩
    · exact ih h
    · cases h

theorem onlyFlags_reveal {ids : List Id} (h : reveal w s ids = .ok t) : OnlyFlags s t := by
  induction ids generalizing s with
  | nil =>
    obtain rfl := pure_eq_ok.mp h
    exact .rfl
  | cons id rest ih =>
    unfold reveal at h
    simp only [bind_eq_ok] at h
    obtain ⟨_, -, h⟩ := h
    exact OnlyFlags.trans ⟨_, rfl⟩ (ih h)

theorem onlyMarks_applyMarks (h : a.applyMarks w s i = .ok (t, trophies)) : OnlyMarks s t := by
  unfold applyMarks at h
  simp only [bind_eq_ok, pure_eq_ok] at h
  obtain ⟨u, hreveal, heq⟩ := h
  obtain ⟨rfl, -⟩ := Prod.mk.inj heq
  refine OnlyMarks.trans ?_ (onlyFlags_reveal hreveal).onlyMarks
  -- before revealing: flags are granted and removed, and points given at most once
  split
  · exact ⟨_, _, rfl⟩
  · cases haward : GameState.awardOnce _ w (a.verb.scoreGuard a.object.id) i.score with
    | none => exact ⟨_, _, rfl⟩
    | some award =>
      obtain ⟨v, messages⟩ := award
      exact OnlyMarks.trans ⟨_, _, rfl⟩ (onlyMarks_awardOnce haward)

theorem onlyFlags_changeState (h : a.changeState w s = .ok t) : OnlyFlags s t := by
  unfold changeState at h
  split at h
  · exact onlyFlags_builtinState h
  · rw [← Except.ok.inj h]
    exact .rfl

theorem onlyMarks_leaveMarks (h : a.leaveMarks w s = .ok (t, trophies)) : OnlyMarks s t := by
  unfold leaveMarks at h
  split at h
  · rw [liftM_refusal, mapError_eq_ok] at h
    exact onlyMarks_applyMarks h
  · obtain ⟨rfl, -⟩ := Prod.mk.inj (Except.ok.inj h)
    exact OnlyFlags.rfl.onlyMarks

theorem deed_of_moveByHand (h : a.moveByHand w s = .ok t) : ∃ log, Deed w s log t := by
  unfold moveByHand at h
  split at h
  · exact deed_of_builtinMove h
  · rw [← Except.ok.inj h]
    exact ⟨[], .of_onlyFlags .rfl⟩

theorem deed_of_moveAsWritten (h : a.moveAsWritten w s = .ok t) : ∃ log, Deed w s log t := by
  unfold moveAsWritten at h
  split at h
  · exact deed_of_applyTransfers (mapError_eq_ok.mp h)
  · rw [← Except.ok.inj h]
    exact ⟨[], .of_onlyFlags .rfl⟩

theorem deed_of_moveObjects (h : a.moveObjects w s = .ok t) : ∃ log, Deed w s log t := by
  unfold moveObjects at h
  rw [bind_eq_ok] at h
  obtain ⟨u, hu, ht⟩ := h
  obtain ⟨log, hlog⟩ := deed_of_moveByHand hu
  obtain ⟨log', hlog'⟩ := deed_of_moveAsWritten ht
  exact ⟨_, hlog.append hlog'⟩

theorem deed_of_changeScene (h : a.changeScene w s = .ok (t, trophies)) : Deed w s [] t := by
  unfold changeScene at h
  split at h
  · split at h
    · rename_i text u hu
      obtain ⟨rfl, -⟩ := Prod.mk.inj (Except.ok.inj h)
      obtain ⟨hscene, flags, rfl⟩ := enterScene_eq hu
      exact .of_scene hscene
    · cases h
  · obtain ⟨rfl, -⟩ := Prod.mk.inj (Except.ok.inj h)
    exact .of_onlyFlags .rfl

/-- The stages of an action that goes through, with the states between them. -/
theorem apply_eq_ok {lines : List String} (h : a.apply w s = .ok (t, lines)) :
    ∃ s₁ s₂ trophies s₃ s₄ arrival, a.changeState w s = .ok s₁ ∧
      a.leaveMarks w s₁ = .ok (s₂, trophies) ∧ a.moveObjects w s₂ = .ok s₃ ∧
      s₃.relit w = .ok s₄ ∧ a.changeScene w s₄ = .ok (t, arrival) ∧
      lines = arrival ++ trophies := by
  unfold apply at h
  simp only [bind_eq_ok, liftM_refusal, mapError_eq_ok, pure_eq_ok] at h
  obtain ⟨s₁, hstate, ⟨s₂, trophies⟩, hmarks, s₃, hmoves, s₄, hlit, ⟨t', arrival⟩, hscene, heq⟩ := h
  obtain ⟨rfl, rfl⟩ := Prod.mk.inj heq
  exact ⟨s₁, s₂, trophies, s₃, s₄, arrival, hstate, hmarks, hmoves, hlit, hscene, rfl⟩

/-- The action has come to its last stage, the change of scene. -/
def Prepared (a : Action) (w : World) (s : GameState) (trophies : List String) (t : GameState) :
    Prop :=
  ∃ s₁ s₂ s₃, a.changeState w s = .ok s₁ ∧ a.leaveMarks w s₁ = .ok (s₂, trophies) ∧
    a.moveObjects w s₂ = .ok s₃ ∧ s₃.relit w = .ok t

/-- An action is prepared, and then the scene changes. -/
theorem apply_eq_ok_iff {lines : List String} : a.apply w s = .ok (t, lines) ↔
    ∃ trophies u arrival, a.Prepared w s trophies u ∧ a.changeScene w u = .ok (t, arrival) ∧
      lines = arrival ++ trophies := by
  constructor
  · intro h
    obtain ⟨s₁, s₂, trophies, s₃, u, arrival, hstate, hmarks, hmoves, hlit, hscene, rfl⟩ :=
      apply_eq_ok h
    exact ⟨trophies, u, arrival, ⟨s₁, s₂, s₃, hstate, hmarks, hmoves, hlit⟩, hscene, rfl⟩
  · rintro ⟨trophies, u, arrival, ⟨s₁, s₂, s₃, hstate, hmarks, hmoves, hlit⟩, hscene, rfl⟩
    unfold apply
    simp only [hstate, hmarks, hmoves, ok_bind]
    rw [liftM_refusal, hlit]
    simp only [Except.mapError, ok_bind, hscene]
    rfl

/-- **An action that goes through is a deed.** -/
theorem deed_of_apply {lines : List String} (h : a.apply w s = .ok (t, lines)) :
    ∃ log, Deed w s log t := by
  obtain ⟨s₁, s₂, trophies, s₃, s₄, arrival, hstate, hmarks, hmoves, hlit, hscene, -⟩ :=
    apply_eq_ok h
  obtain ⟨log, hlog⟩ := deed_of_moveObjects hmoves
  have hbefore : Deed w s [] s₂ :=
    .of_onlyMarks ((onlyFlags_changeState hstate).onlyMarks.trans (onlyMarks_leaveMarks hmarks))
  have hafter : Deed w s₃ [] t :=
    (Deed.of_onlyFlags (onlyFlags_relit hlit)).append (deed_of_changeScene hscene)
  exact ⟨_, (hbefore.append hlog).append hafter⟩

end Action

/-! ## Commands -/

/-- The ways in which a command can end, before time passes. -/
inductive Performed (w : World) (s : GameState) :
    Except WorldError Response × GameState → List Move → Prop where
  | failed (cause : WorldError) : Performed w s (.error cause, s) []
  | free (r : Response) (hturn : r.takesTurn = false) : Performed w s (.ok r, s) []
  | done (r : Response) {t : GameState} {log : List Move} (hturn : r.takesTurn = true)
      (hsuccess : r.success = true) (h : Deed w s log t) : Performed w s (.ok r, t) log

namespace GameState

variable {messages : Messages}

/-- Whatever stops an action leaves the state before it; once its effects are brought about
nothing can stop it. -/
theorem performed_act (hs : Placed w s) (hhere : w.hasScene s.currentScene = true)
    (command : Command) : ∃ log, Performed w s (s.act w messages command) log := by
  unfold act
  split
  · exact ⟨[], .failed _⟩
  · exact ⟨[], .free _ rfl⟩
  · rename_i a _
    split
    · exact ⟨[], .failed _⟩
    · exact ⟨[], .free _ rfl⟩
    · rename_i after lines happly
      -- the state is kept from here on, so the answer must be found
      obtain ⟨log, hdeed⟩ := Action.deed_of_apply happly
      obtain ⟨text, htext⟩ := a.message_ok (hdeed.moved.placed hs) (hdeed.here hhere) messages
      rw [htext]
      exact ⟨log, .done _ rfl rfl hdeed⟩

theorem performed_go (token : String) : ∃ log, Performed w s (s.go w messages token) log := by
  unfold go
  split
  · exact ⟨[], .failed _⟩
  · exact ⟨[], .free _ rfl⟩
  · split
    · exact ⟨[], .failed _⟩
    · exact ⟨[], .free _ rfl⟩
    · split
      · exact ⟨[], .failed _⟩
      · rename_i arrival after htraverse
        obtain ⟨hscene, flags, score, rfl⟩ := traverse_eq htraverse
        exact ⟨[], .done _ rfl rfl (.of_scene hscene)⟩

theorem performed_answerFreely (text : Except WorldError String) :
    Performed w s (s.answerFreely text) [] := by
  unfold answerFreely
  cases text with
  | error cause => exact .failed cause
  | ok text => exact .free _ rfl

/-- **Every command ends in one of these ways.** -/
theorem performed (hs : Placed w s) (hhere : w.hasScene s.currentScene = true)
    (settings : Settings) (command : Command) :
    ∃ log, Performed w s (s.perform w settings command) log := by
  unfold perform
  simp only
  -- with a noun: going or acting; without: looking, carrying, the score, waiting, going, acting
  split
  · split
    · exact performed_go _
    · exact performed_act hs hhere command
  · split
    · exact ⟨[], performed_answerFreely _⟩
    · split
      · exact ⟨[], performed_answerFreely _⟩
      · split
        · exact ⟨[], performed_answerFreely _⟩
        · split
          · exact ⟨[], .done _ rfl rfl (.of_onlyFlags .rfl)⟩
          · split
            · exact ⟨[], .free _ rfl⟩
            · split
              · exact performed_go _
              · exact performed_act hs hhere command

end GameState

/-! ## Turns -/

/-- The ways in which a command can end, with the end of its turn. -/
inductive Executed (w : World) (s : GameState) :
    Except WorldError Response × GameState → List Move → Prop where
  | failed (cause : WorldError) : Executed w s (.error cause, s) []
  | free (r : Response) (hturn : r.takesTurn = false) : Executed w s (.ok r, s) []
  | done (r : Response) {t : GameState} {log : List Move} (hturn : r.takesTurn = true)
      (hsuccess : r.success = true) (hmoved : Moved w s log t)
      (hturns : t.turnCount = s.turnCount + 1) (hhere : w.hasScene t.currentScene = true) :
      Executed w s (.ok r, t) log

namespace GameState

/-- The end of a turn has an answer whenever the command had one. -/
theorem executed_endTurn (hs : Placed w s) (hhere : w.hasScene s.currentScene = true)
    (settings : Settings) {out : Except WorldError Response × GameState}
    (h : Performed w s out log) : Executed w s (endTurn w settings out) log ∧
      ((∃ r, out.1 = .ok r) → ∃ r, (endTurn w settings out).1 = .ok r) := by
  unfold endTurn
  cases h with
  | failed cause => exact ⟨.failed cause, id⟩
  | free r hturn =>
    simp only [hturn]
    exact ⟨.free r hturn, id⟩
  | @done r t log hturn hsuccess hdeed =>
    have hsame : t.SameHolders { t with turnCount := t.turnCount + 1 } := ⟨rfl, rfl, rfl⟩
    obtain ⟨u, events, htick, hburnt, hevents⟩ :=
      tick_ok settings.batteryPolicy (hsame.placed (hdeed.moved.placed hs)) (hdeed.here hhere)
    obtain ⟨lines, hlines⟩ : ∃ lines, events.mapM (eventLine w settings.messages) = .ok lines :=
      mapM_ok fun event hevent => eventLine_ok (hevents event hevent)
    have hmoved := hdeed.moved.append (.still (hsame.trans hburnt.sameHolders))
    rw [List.append_nil] at hmoved
    simp only [hturn, htick, hlines]
    obtain ⟨flags, usage, rfl⟩ := hburnt
    refine ⟨?_, fun _ => ⟨_, rfl⟩⟩
    exact .done _ rfl hsuccess hmoved (congrArg (· + 1) hdeed.turnCount) (hdeed.here hhere)

/-- **Every command, with the end of its turn, ends in one of these ways.** -/
theorem executed (hs : Placed w s) (hhere : w.hasScene s.currentScene = true)
    (settings : Settings) (command : Command) :
    ∃ log, Executed w s (s.execute w settings command) log := by
  obtain ⟨log, hperformed⟩ := performed hs hhere settings command
  exact ⟨log, (executed_endTurn hs hhere settings hperformed).1⟩

/-- A command has an answer when it has one before the end of the turn. -/
theorem execute_ok (hs : Placed w s) (hhere : w.hasScene s.currentScene = true)
    {settings : Settings} {command : Command}
    (h : ∃ r, (s.perform w settings command).1 = .ok r) :
    ∃ r, (s.execute w settings command).1 = .ok r := by
  obtain ⟨log, hperformed⟩ := performed hs hhere settings command
  exact (executed_endTurn hs hhere settings hperformed).2 h

end GameState

end TextAdventure
