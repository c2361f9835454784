import TextAdventure.Proofs.Play.Acting

/-!
# Turns

What a command that takes a turn has done, step by step. An action that is planned is `Planned`:
its nouns were found and could be reached, and nothing refused it. `CarriedOut` lists the ways in
which a command can take a turn, and `execute_cases` says that there is no other: a command either
leaves the state as it was, or is carried out in one of these ways and then lets a turn pass. The
turn itself, with what happens to the light sources, is `turn?`.

`Told` lists the same ways once more with what is said, the story and what is announced after it
(`told_of_execute`).
-/

namespace TextAdventure

open Std GameState

variable {w : World} {s t : GameState} {messages : Messages} {command : Command} {a : Action}

/-! ## Nouns -/

namespace GameState

/-- Nothing closed is around an object when all containers around it are open. -/
theorem closedAround_eq_none_iff {o : Id} :
    s.closedAround o = none ↔ ∀ c ∈ s.enclosing o, s.isOpen c = true := by
  unfold closedAround
  rw [Option.map_eq_none_iff, List.find?_eq_none]
  simp

/-- A noun that can be acted on stands for an object that is seen, with every container around it
open. -/
theorem locate_eq_object {noun : String} {o : Object}
    (h : s.locate w messages noun = .ok (.object o)) :
    ∃ id lit, s.findPresent w noun = .ok (some id) ∧ w.objects[id]? = some o ∧
      s.hasLight w = .ok lit ∧ s.isVisibleIn w lit id = .ok true ∧
      ∀ c ∈ s.enclosing id, s.isOpen c = true := by
  unfold locate at h
  rw [bind_eq_ok] at h
  obtain ⟨found, hfound, h⟩ := h
  cases found with
  | none => cases h
  | some id =>
    simp only [bind_eq_ok, World.object_eq_ok] at h
    obtain ⟨o', ho, lit, hlit, h⟩ := h
    split at h
    · cases h
    · split at h
      · -- a closed container around the object refuses the noun
        simp only [bind_eq_ok, pure_eq_ok] at h
        obtain ⟨_, -, h⟩ := h
        cases h
      · rename_i hopen
        rw [bind_eq_ok] at h
        obtain ⟨seen, hseen, h⟩ := h
        cases seen with
        | false => cases h
        | true =>
          obtain rfl := Located.object.inj (pure_eq_ok.mp h)
          exact ⟨id, lit, hfound, ho, hlit, hseen, closedAround_eq_none_iff.mp hopen⟩

end GameState

/-! ## Plans -/

/-- The action is what a command comes to: it is about what the nouns of the command stand for,
and neither its interaction nor the built-in part refuses it. -/
structure Planned (w : World) (messages : Messages) (s : GameState) (command : Command)
    (a : Action) : Prop where
  verb : a.verb = Verb.ofText command.verb
  object : ∃ noun, Command.noun? command.object = some noun ∧
    s.locate w messages noun = .ok (.object a.object)
  target : ∀ noun, Command.noun? command.target = some noun →
    ∃ o, a.target = some o ∧ s.locate w messages noun = .ok (.object o)
  untargeted : Command.noun? command.target = none → a.target = none
  entry : a.entry = a.object.interactions[a.verb]?
  builtin : a.builtin = a.verb.appliesTo a.object
  meant : a.builtin = true ∨ a.entry.isSome = true
  aimed : a.verb = .put → a.builtin = true → a.target.isSome = true
  unrefused : a.entryRefusal w messages s = .ok none
  works : a.builtinRefusal w s = .ok none

/-- An action passes its check when it means something, is aimed, and nothing refuses it. -/
theorem Action.check_eq_act {b : Action} (h : a.check w messages s = .ok (.act b)) :
    b = a ∧ (a.builtin = true ∨ a.entry.isSome = true) ∧
      (a.verb = .put → a.builtin = true → a.target.isSome = true) ∧
      a.entryRefusal w messages s = .ok none ∧ a.builtinRefusal w s = .ok none := by
  unfold check at h
  split at h
  · cases h
  · rename_i hmeant
    split at h
    · cases h
    · rename_i haimed
      rw [bind_eq_ok] at h
      obtain ⟨refusal, hentry, h⟩ := h
      cases refusal with
      | some message => cases h
      | none =>
        simp only [bind_eq_ok] at h
        obtain ⟨refusal, hbuiltin, h⟩ := h
        cases refusal with
        | some message => cases h
        | none =>
          obtain rfl := Plan.act.inj (pure_eq_ok.mp h)
          refine ⟨rfl, ?_, fun hput hb => ?_, hentry, hbuiltin⟩
          · cases hb : a.builtin <;> cases he : a.entry <;> simp_all
          · cases ht : a.target <;> simp_all

/-- An action on what the nouns of a command stand for is planned when it passes its check. -/
theorem planned_on {o : Object} {target : Option Object} {noun : String}
    (hnoun : Command.noun? command.object = some noun)
    (hlocated : s.locate w messages noun = .ok (.object o))
    (htarget : ∀ noun, Command.noun? command.target = some noun →
      ∃ t, target = some t ∧ s.locate w messages noun = .ok (.object t))
    (huntargeted : Command.noun? command.target = none → target = none)
    (h : (Action.on (Verb.ofText command.verb) o target).check w messages s = .ok (.act a)) :
    Planned w messages s command a := by
  obtain ⟨heq, hmeant, haimed, hentry, hbuiltin⟩ := Action.check_eq_act h
  rw [← heq] at hmeant haimed hentry hbuiltin
  unfold Action.on at heq
  constructor
  case object => exact ⟨noun, hnoun, by rw [heq]; exact hlocated⟩
  case target =>
    rw [heq]
    exact htarget
  case untargeted =>
    rw [heq]
    exact huntargeted
  case meant => exact hmeant
  case aimed => exact haimed
  case unrefused => exact hentry
  case works => exact hbuiltin
  all_goals simp only [heq]

/-- What is planned is planned for the nouns of the command. -/
theorem planned_of_plan (h : s.plan w messages command = .ok (.act a)) :
    Planned w messages s command a := by
  unfold plan at h
  simp only at h
  split at h
  · cases h
  · rename_i noun hnoun
    rw [bind_eq_ok] at h
    obtain ⟨located, hlocated, h⟩ := h
    cases located with
    | refused message => cases h
    | object o =>
      simp only [bind_eq_ok] at h
      obtain ⟨target, htarget, h⟩ := h
      -- with a target or without one, the same check is passed in the end
      cases hnoun' : Command.noun? command.target with
      | none =>
        rw [hnoun', Option.mapM_none, pure_eq_ok] at htarget
        subst htarget
        refine planned_on hnoun hlocated (fun n hn => ?_) (fun _ => rfl) h
        rw [hnoun'] at hn
        cases hn
      | some noun' =>
        rw [hnoun', Option.mapM_some, map_eq_ok] at htarget
        obtain ⟨located', hlocated', rfl⟩ := htarget
        cases located' with
        | refused message => cases h
        | object o' =>
          refine planned_on hnoun hlocated (fun n hn => ⟨o', rfl, ?_⟩) (fun hn => ?_) h
          · rw [hnoun'] at hn
            obtain rfl := Option.some.inj hn
            exact hlocated'
          · rw [hnoun'] at hn
            cases hn

/-! ## Going -/

/-- The verb of the command is one of those for going. -/
def Command.goes (command : Command) : Bool :=
  decide (Text.lower (Text.trim command.verb) ∈ ["go", "walk", "run"])

/-- Where a command says to go: by its noun, or by a verb that is a direction. -/
def Command.heading? (command : Command) : Option String :=
  match Command.noun? command.object with
  | some noun => if command.goes then some noun else none
  | none =>
    let verb := Text.lower (Text.trim command.verb)
    if normalizeDirection verb ∈ directions then some verb else none

namespace GameState

variable {settings : Settings} {noun : String}

/-- With a noun a command goes somewhere or is about an object. -/
theorem perform_of_noun (hnoun : Command.noun? command.object = some noun) :
    s.perform w settings command =
      if command.goes then s.go w settings.messages noun
      else s.act w settings.messages command := by
  unfold perform Command.goes
  simp [hnoun]

/-- What only answers takes no turn. -/
theorem answerFreely_takesTurn {text : Except WorldError String} {r : Response}
    (h : (s.answerFreely text).1 = .ok r) : r.takesTurn = false := by
  unfold answerFreely at h
  cases text with
  | error cause => cases h
  | ok text =>
    cases h
    rfl

/-- A command leaves the state alone, and takes a turn then only to wait; or it goes where it says,
or is about an object. -/
theorem perform_cases (s : GameState) (w : World) (settings : Settings) (command : Command) :
    ((s.perform w settings command).2 = s ∧ ∀ r, (s.perform w settings command).1 = .ok r →
        r.takesTurn = true → r = .done settings.messages.wait) ∨
      (∃ token, command.heading? = some token ∧
        s.perform w settings command = s.go w settings.messages token) ∨
      command.heading? = none ∧
        s.perform w settings command = s.act w settings.messages command := by
  have hfree : ∀ {text r}, (s.answerFreely text).1 = .ok r → r.takesTurn = true →
      r = .done settings.messages.wait := by
    intro text r hr hturn
    rw [answerFreely_takesTurn hr] at hturn
    cases hturn
  unfold Command.heading?
  cases hnoun : Command.noun? command.object with
  | some noun =>
    rw [perform_of_noun hnoun]
    by_cases hgoes : command.goes = true
    · exact .inr (.inl ⟨noun, by simp [hgoes], by simp [hgoes]⟩)
    · exact .inr (.inr ⟨by simp [hgoes], by simp [hgoes]⟩)
  | none =>
    unfold perform
    simp only [hnoun]
    -- looking, carrying, the score, waiting, and going nowhere leave the state alone
    split
    · exact .inl ⟨rfl, fun r => hfree⟩
    · split
      · exact .inl ⟨rfl, fun r => hfree⟩
      · split
        · exact .inl ⟨rfl, fun r => hfree⟩
        · split
          · exact .inl ⟨rfl, fun r hr _ => (Except.ok.inj hr).symm⟩
          · split
            · refine .inl ⟨rfl, fun r hr hturn => ?_⟩
              rw [← Except.ok.inj hr] at hturn
              cases hturn
            · split
              · exact .inr (.inl ⟨_, rfl, rfl⟩)
              · exact .inr (.inr ⟨rfl, rfl⟩)

end GameState

/-! ## Commands -/

/-- The ways in which a command takes a turn, before time passes. -/
inductive CarriedOut (w : World) (messages : Messages) (s : GameState) (command : Command) :
    GameState → Prop where
  | waited : CarriedOut w messages s command s
  | went {token : String} {e : Exit} {arrival : Arrival} {t : GameState}
      (hheading : command.heading? = some token)
      (hexit : w.findExit s.currentScene token = .ok (some e))
      (h : s.traverse w e = (.ok arrival, t)) : CarriedOut w messages s command t
  | acted {a : Action} {lines : List String} {t : GameState}
      (hheading : command.heading? = none) (hplan : s.plan w messages command = .ok (.act a))
      (h : a.apply w s = .ok (t, lines)) : CarriedOut w messages s command t

/-- What a command that takes a turn says, before time passes: a story, and after it the messages of
the trophies that are announced. The story of an exit is the scene behind it, and that of an action
is what is said of it, with the scene where it leads. -/
inductive Told (w : World) (messages : Messages) (s : GameState) (command : Command) :
    List String → List String → GameState → Prop where
  | waited : Told w messages s command [messages.wait] [] s
  | went {token : String} {e : Exit} {arrival : Arrival} {u t : GameState}
      (hheading : command.heading? = some token)
      (hexit : w.findExit s.currentScene token = .ok (some e))
      (hentered : s.enterScene w e.destination = (.ok arrival.description, u))
      (h : s.traverse w e = (.ok arrival, t)) :
      Told w messages s command [arrival.description] arrival.achievements t
  | acted {a : Action} {u t : GameState} {arrival trophies : List String} {text : String}
      (hheading : command.heading? = none) (hplan : s.plan w messages command = .ok (.act a))
      (hprepared : a.Prepared w s trophies u) (hscene : a.changeScene w u = .ok (t, arrival))
      (hviewed : ∀ line ∈ arrival, ∃ scene, a.entry.bind (·.targetScene) = some scene ∧
        (u.enterScene w scene).1 = .ok line)
      (htext : a.message w messages t = .ok text) :
      Told w messages s command (text :: arrival) trophies t

theorem Told.carriedOut {story trophies : List String}
    (h : Told w messages s command story trophies t) : CarriedOut w messages s command t := by
  cases h with
  | waited => exact .waited
  | went hheading hexit _ h => exact .went hheading hexit h
  | acted hheading hplan hprepared hscene _ _ =>
    exact .acted hheading hplan (Action.apply_eq_ok_iff.mpr ⟨_, _, _, hprepared, hscene, rfl⟩)

/-- A command does not use the light sources; time does. -/
theorem lightUsage_of_carriedOut (h : CarriedOut w messages s command t) :
    t.lightUsage = s.lightUsage := by
  cases h with
  | waited => rfl
  | went _ _ htraverse =>
    obtain ⟨-, _, _, rfl⟩ := traverse_eq htraverse
    rfl
  | acted _ _ happly =>
    obtain ⟨log, hdeed⟩ := Action.deed_of_apply happly
    exact hdeed.lightUsage

/-- A turn that passes: the state at the end of a command, what happens to the light sources then,
and the state after that. -/
structure Turn where
  ended : GameState
  events : List LightEvent
  after : GameState

namespace GameState

variable {r : Response} {settings : Settings}

theorem told_of_go {token : String} (hheading : command.heading? = some token)
    (h : s.go w messages token = (.ok r, t)) (hturn : r.takesTurn = true) : ∃ story trophies,
      Told w messages s command story trophies t ∧
        r.message = "\n".intercalate (story ++ trophies) := by
  unfold go at h
  split at h
  · cases h
  · cases h
    cases hturn
  · rename_i e hexit
    split at h
    · cases h
    · cases h
      cases hturn
    · split at h
      · cases h
      · rename_i arrival after htraverse
        cases h
        obtain ⟨u, hentered, -⟩ := traverse_eq_ok htraverse
        exact ⟨_, _, .went hheading hexit hentered htraverse, rfl⟩

/-- What a change of scene adds to the story is the scene that is entered. -/
theorem enterScene_of_changeScene {lines : List String} (h : a.changeScene w s = .ok (t, lines)) :
    ∀ line ∈ lines, ∃ scene, a.entry.bind (·.targetScene) = some scene ∧
      (s.enterScene w scene).1 = .ok line := by
  intro line hline
  unfold Action.changeScene at h
  split at h
  · rename_i scene hscene
    split at h
    · rename_i text u hu
      obtain ⟨-, rfl⟩ := Prod.mk.inj (Except.ok.inj h)
      obtain rfl := List.mem_singleton.mp hline
      exact ⟨scene, hscene, by rw [hu]⟩
    · cases h
  · obtain ⟨-, rfl⟩ := Prod.mk.inj (Except.ok.inj h)
    exact (List.not_mem_nil hline).elim

theorem told_of_act (hheading : command.heading? = none)
    (h : s.act w messages command = (.ok r, t)) (hturn : r.takesTurn = true) :
    ∃ story trophies, Told w messages s command story trophies t ∧
      r.message = "\n".intercalate (story ++ trophies) := by
  unfold act at h
  split at h
  · cases h
  · cases h
    cases hturn
  · rename_i a hplan
    split at h
    · cases h
    · cases h
      cases hturn
    · rename_i after lines happly
      split at h
      · cases h
      · rename_i text htext
        cases h
        obtain ⟨trophies, u, arrival, hprepared, hscene, rfl⟩ := Action.apply_eq_ok_iff.mp happly
        have hviewed := enterScene_of_changeScene hscene
        exact ⟨_, _, .acted hheading hplan hprepared hscene hviewed htext, rfl⟩

/-- A command that takes a turn is carried out in one of the ways, and says so. -/
theorem told_of_perform (h : s.perform w settings command = (.ok r, t))
    (hturn : r.takesTurn = true) : ∃ story trophies,
      Told w settings.messages s command story trophies t ∧
        r.message = "\n".intercalate (story ++ trophies) := by
  rcases perform_cases s w settings command with
    ⟨hsame, hwaits⟩ | ⟨token, hheading, hgo⟩ | ⟨hheading, hact⟩
  · rw [h] at hsame hwaits
    obtain rfl : t = s := hsame
    obtain rfl := hwaits r rfl hturn
    exact ⟨_, _, .waited, rfl⟩
  · exact told_of_go hheading (hgo.symm.trans h) hturn
  · exact told_of_act hheading (hact.symm.trans h) hturn

/-- What is said in a turn: the story of the command, what it announces, and last what happens to
the light sources. -/
theorem told_of_execute (h : (s.execute w settings command).1 = .ok r)
    (hturn : r.takesTurn = true) :
    ∃ story trophies ended events reports,
      Told w settings.messages s command story trophies ended ∧
      GameState.tick { ended with turnCount := ended.turnCount + 1 } w settings.batteryPolicy =
        .ok ((s.execute w settings command).2, events) ∧
      events.mapM (eventLine w settings.messages) = .ok reports ∧
      r.message = "\n".intercalate ("\n".intercalate (story ++ trophies) :: reports) := by
  unfold execute endTurn at h ⊢
  split at h
  · cases h
  · rename_i r' t hperform
    simp only at h ⊢
    split at h
    · rename_i hfree
      obtain rfl := Except.ok.inj h
      rw [hturn] at hfree
      cases hfree
    · rename_i htakes
      have htakes : r'.takesTurn = true := by simpa using htakes
      split at h
      · cases h
      · rename_i u events htick
        split at h
        · cases h
        · rename_i reports hreports
          obtain rfl := Except.ok.inj h
          obtain ⟨story, trophies, htold, hmessage⟩ := told_of_perform hperform htakes
          refine ⟨story, trophies, t, events, reports, htold, ?_, hreports, by rw [hmessage]⟩
          simp only [htakes, htick]
          rfl

/-- The turn that a command takes, if it takes one. -/
def turn? (s : GameState) (w : World) (settings : Settings) (command : Command) : Option Turn :=
  match s.perform w settings command with
  | (.error _, _) => none
  | (.ok r, t) =>
    if r.takesTurn then
      let ended := { t with turnCount := t.turnCount + 1 }
      match ended.tick w settings.batteryPolicy with
      | .error _ => none
      | .ok (after, events) => some ⟨ended, events, after⟩
    else none

/-- A command that takes no turn leaves the state as it was. -/
theorem execute_of_turn?_eq_none (hs : Placed w s) (hhere : w.hasScene s.currentScene = true)
    (h : s.turn? w settings command = none) : (s.execute w settings command).2 = s ∧
      ∀ r, (s.execute w settings command).1 = .ok r → r.takesTurn = false := by
  obtain ⟨log, hperformed⟩ := performed hs hhere settings command
  unfold turn? at h
  unfold execute endTurn
  generalize s.perform w settings command = out at hperformed h ⊢
  cases hperformed with
  | failed cause => exact ⟨rfl, fun r hr => by cases hr⟩
  | free r hturn =>
    simp only [hturn]
    refine ⟨rfl, fun r' hr' => ?_⟩
    rw [← Except.ok.inj hr', hturn]
  | @done r t log hturn hsuccess hdeed =>
    have hsame : t.SameHolders { t with turnCount := t.turnCount + 1 } := ⟨rfl, rfl, rfl⟩
    obtain ⟨u, events, htick, -⟩ :=
      tick_ok settings.batteryPolicy (hsame.placed (hdeed.moved.placed hs)) (hdeed.here hhere)
    simp only [hturn, htick] at h
    cases h

/-- When something is done the turn passes, and what happens to the light sources is added to what
is said. -/
theorem execute_of_perform (hs : Placed w s) (hhere : w.hasScene s.currentScene = true)
    (h : s.perform w settings command = (.ok r, t)) (hturn : r.takesTurn = true) :
    ∃ u events reports,
      GameState.tick { t with turnCount := t.turnCount + 1 } w settings.batteryPolicy =
        .ok (u, events) ∧
      events.mapM (eventLine w settings.messages) = .ok reports ∧
      s.execute w settings command =
        (.ok { r with message := "\n".intercalate (r.message :: reports) }, u) := by
  obtain ⟨log, hperformed⟩ := performed hs hhere settings command
  rw [h] at hperformed
  unfold execute endTurn
  cases hperformed with
  | free _ hfree =>
    rw [hturn] at hfree
    cases hfree
  | done _ _ _ hdeed =>
    have hsame : t.SameHolders { t with turnCount := t.turnCount + 1 } := ⟨rfl, rfl, rfl⟩
    obtain ⟨u, events, htick, -, hevents⟩ :=
      tick_ok settings.batteryPolicy (hsame.placed (hdeed.moved.placed hs)) (hdeed.here hhere)
    obtain ⟨reports, hreports⟩ :
        ∃ reports, events.mapM (eventLine w settings.messages) = .ok reports :=
      mapM_ok fun event hevent => eventLine_ok (hevents event hevent)
    refine ⟨u, events, reports, htick, hreports, ?_⟩
    simp only [h, hturn, htick, hreports]
    rfl

/-- A command that takes a turn is carried out in one of the ways, and then the turn passes. -/
theorem execute_of_turn?_eq_some (hs : Placed w s) (hhere : w.hasScene s.currentScene = true)
    {turn : Turn} (h : s.turn? w settings command = some turn) :
    ∃ r t, s.execute w settings command = (.ok r, turn.after) ∧ r.takesTurn = true ∧
      CarriedOut w settings.messages s command t ∧
      turn.ended = { t with turnCount := t.turnCount + 1 } ∧
      turn.ended.tick w settings.batteryPolicy = .ok (turn.after, turn.events) := by
  unfold turn? at h
  split at h
  · cases h
  · rename_i r t hperform
    simp only at h
    split at h
    · rename_i hturn
      obtain ⟨u, events, reports, htick, -, hexecute⟩ := execute_of_perform hs hhere hperform hturn
      rw [htick] at h
      obtain rfl := Option.some.inj h
      obtain ⟨_, _, htold, -⟩ := told_of_perform hperform hturn
      exact ⟨_, t, hexecute, hturn, htold.carriedOut, rfl, htick⟩
    · cases h

/-- **Every command** leaves the state as it was, or is carried out and then lets a turn pass. -/
theorem execute_cases (hs : Placed w s) (hhere : w.hasScene s.currentScene = true)
    (settings : Settings) (command : Command) :
    (s.execute w settings command).2 = s ∨
      ∃ t events, CarriedOut w settings.messages s command t ∧
        GameState.tick { t with turnCount := t.turnCount + 1 } w settings.batteryPolicy =
          .ok ((s.execute w settings command).2, events) := by
  cases h : s.turn? w settings command with
  | none => exact .inl (execute_of_turn?_eq_none hs hhere h).1
  | some turn =>
    obtain ⟨r, t, hexecute, -, hcarried, hended, htick⟩ := execute_of_turn?_eq_some hs hhere h
    rw [hended] at htick
    exact .inr ⟨t, turn.events, hcarried, by rw [hexecute]; exact htick⟩

end GameState

end TextAdventure
