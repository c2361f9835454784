import TextAdventure.Proofs.Play.Turns
import TextAdventure.Proofs.World.Coherent

/-!
# Who moves what

An action moves objects in two ways: by hand it moves the object that it is about, and as written
it moves the objects that the transfers of its interaction name. Everything else stays where it is
(`locationOf_apply`), whatever the object is inside of.

What is moved by hand could be reached: in the state in which the command was given every container
around the object was open, and so were the container that it is put into and every container
around that one (`byHand_of_brings`). So nothing that is inside a closed container is moved by hand,
and nothing is put there.
-/

namespace TextAdventure

open Std Relation GameState

variable {w : World} {s t u : GameState} {log : List Move} {x : Id}

/-! ## Places -/

namespace GameState

variable {byHand : Bool} {item : Id} {p : Place}

theorem SameHolders.locationOf (h : SameHolders s t) : t.locationOf x = s.locationOf x := by
  unfold GameState.locationOf carries
  rw [h.inventory, h.containers, h.scenes]

theorem OneHolder.inside_iff {c : Id} (hs : s.OneHolder) :
    s.Inside x c ↔ s.locationOf x = .container c :=
  ⟨hs.locationOf_eq, inside_of_locationOf⟩

/-- With one holder at most, an object that the same places hold is in the same place. -/
theorem OneHolder.locationOf_congr (ht : t.OneHolder)
    (h : ∀ p, t.Holds p x ↔ s.Holds p x) : t.locationOf x = s.locationOf x := by
  by_cases hnone : s.locationOf x = .nowhere
  · rw [hnone, locationOf_eq_nowhere]
    exact fun p hp => locationOf_eq_nowhere.mp hnone p ((h p).mp hp)
  · exact ht.locationOf_eq ((h _).mpr (holds_locationOf hnone))

/-- A move leaves every other object where it is. -/
theorem locationOf_move_of_ne (hs : Placed w s) (h : s.move w byHand item p = .ok t)
    (hx : x ≠ item) : t.locationOf x = s.locationOf x := by
  refine (hs.move h).single.locationOf_congr fun q => ?_
  obtain ⟨-, -, -, -, -, rfl⟩ := move_eq_ok_iff.mp h
  simp [holds_added, holds_unplace hs.single, hx]

/-- A move brings the object to its destination. -/
theorem locationOf_move (hs : Placed w s) (h : s.move w byHand item p = .ok t) :
    t.locationOf item = p := by
  have ht := hs.move h
  obtain ⟨-, -, -, -, -, rfl⟩ := move_eq_ok_iff.mp h
  by_cases hp : p = .nowhere
  · rw [hp, locationOf_eq_nowhere]
    intro q hq
    rw [← hp] at hq
    rcases holds_added.mp hq with hq | ⟨hne, -, -⟩
    · exact hs.single.not_holds_unplace hq
    · exact hne hp
  · exact ht.single.locationOf_eq (holds_added.mpr (.inr ⟨hp, rfl, rfl⟩))

end GameState

/-- A run of moves leaves every object where it was that none of them moves. -/
theorem Moved.locationOf_eq (h : Moved w s log t) (hs : Placed w s)
    (hx : ∀ m ∈ log, m.item ≠ x) : t.locationOf x = s.locationOf x := by
  induction h with
  | still hsame => exact hsame.locationOf
  | @move s t m log hsame hm _ ih =>
    have hbefore := hsame.placed hs
    rw [ih (hbefore.move hm) fun m' hm' => hx m' (List.mem_cons_of_mem _ hm'),
      locationOf_move_of_ne hbefore hm (hx m (List.mem_cons_self ..)).symm, hsame.locationOf]

/-! ## Actions -/

namespace Action

variable {a : Action}

/-- A transfer of the interaction names the object. -/
def Transfers (a : Action) (x : Id) : Prop :=
  ∃ i, a.entry = some i ∧ ∃ transfer ∈ i.transfers, transfer.object = x

/-- The place to which the verb brings its object by hand. -/
inductive Brings (a : Action) (s : GameState) : Place → Prop where
  | take (h : a.verb = .take) : Brings a s .inventory
  | drop (h : a.verb = .drop) : Brings a s (.scene s.currentScene)
  | put {target : Object} (h : a.verb = .put) (htarget : a.target = some target) :
      Brings a s (.container target.id)

/-- What the verb does by hand is one move of its object, or nothing. -/
theorem builtinMove_eq_ok (h : a.builtinMove w s = .ok t) :
    t = s ∨ ∃ p, a.Brings s p ∧ s.move w true a.object.id p = .ok t := by
  unfold builtinMove at h
  split at h
  · rename_i hverb
    exact .inr ⟨_, .take hverb, move_of_pickUp (mapError_eq_ok.mp h)⟩
  · rename_i hverb
    exact .inr ⟨_, .drop hverb, move_of_putDown (mapError_eq_ok.mp h)⟩
  · rename_i hverb
    split at h
    · rename_i target htarget
      split at h
      · exact .inr ⟨_, .put hverb htarget, move_of_putDown (mapError_eq_ok.mp h)⟩
      · cases h
    · exact .inl (Except.ok.inj h).symm
  · exact .inl (Except.ok.inj h).symm

theorem moveByHand_eq_ok (h : a.moveByHand w s = .ok t) :
    t = s ∨ a.builtin = true ∧ ∃ p, a.Brings s p ∧ s.move w true a.object.id p = .ok t := by
  unfold moveByHand at h
  split at h
  · rename_i hbuiltin
    exact (builtinMove_eq_ok h).imp_right fun hmove => ⟨hbuiltin, hmove⟩
  · exact .inl (Except.ok.inj h).symm

/-- Transfers move what they name, and change nothing but the holders. -/
theorem applyTransfers_eq_ok {transfers : List Authored.Transfer}
    (h : applyTransfers w s transfers = .ok t) :
    SameBesides s t ∧ ∃ log, Moved w s log t ∧
      ∀ m ∈ log, ∃ transfer ∈ transfers, transfer.object = m.item := by
  induction transfers generalizing s with
  | nil =>
    obtain rfl := pure_eq_ok.mp h
    exact ⟨⟨rfl, rfl, rfl, rfl, rfl⟩, [], .still .rfl, fun m hm => (List.not_mem_nil hm).elim⟩
  | cons transfer rest ih =>
    have hlater : ∀ {log : List Move},
        (∀ m ∈ log, ∃ transfer ∈ rest, transfer.object = m.item) →
        ∀ m ∈ log, ∃ transfer' ∈ transfer :: rest, transfer'.object = m.item := by
      intro log hlog m hm
      obtain ⟨transfer', hmem, hitem⟩ := hlog m hm
      exact ⟨transfer', List.mem_cons_of_mem _ hmem, hitem⟩
    unfold applyTransfers at h
    split at h
    · rename_i u hu
      obtain ⟨hbesides, log, hmoved, hlog⟩ := ih h
      refine ⟨(sameBesides_move hu).trans hbesides, _, (Moved.single hu).append hmoved,
        fun m hm => ?_⟩
      rcases List.mem_cons.mp hm with rfl | hm
      · exact ⟨transfer, List.mem_cons_self .., rfl⟩
      · exact hlater hlog m hm
    · -- what is there already is passed over
      obtain ⟨hbesides, log, hmoved, hlog⟩ := ih h
      exact ⟨hbesides, log, hmoved, hlater hlog⟩
    · cases h

theorem moveAsWritten_eq_ok (h : a.moveAsWritten w s = .ok t) :
    SameBesides s t ∧ ∃ log, Moved w s log t ∧ ∀ m ∈ log, a.Transfers m.item := by
  unfold moveAsWritten at h
  split at h
  · rename_i i hi
    obtain ⟨hbesides, log, hmoved, hlog⟩ := applyTransfers_eq_ok (mapError_eq_ok.mp h)
    exact ⟨hbesides, log, hmoved, fun m hm => ⟨i, hi, hlog m hm⟩⟩
  · obtain rfl := Except.ok.inj h
    exact ⟨⟨rfl, rfl, rfl, rfl, rfl⟩, [], .still .rfl, fun m hm => (List.not_mem_nil hm).elim⟩

/-- The moves of an action change nothing but the holders. -/
theorem sameBesides_moveObjects (h : a.moveObjects w s = .ok t) : SameBesides s t := by
  unfold moveObjects at h
  rw [bind_eq_ok] at h
  obtain ⟨u, hu, ht⟩ := h
  refine SameBesides.trans ?_ (moveAsWritten_eq_ok ht).1
  rcases moveByHand_eq_ok hu with rfl | ⟨-, p, -, hmove⟩
  · exact ⟨rfl, rfl, rfl, rfl, rfl⟩
  · exact sameBesides_move hmove

/-- **What an action leaves in its place**: every object but the one that it brings somewhere by
hand and those that its transfers name. -/
theorem locationOf_apply (hs : Placed w s) {lines : List String}
    (h : a.apply w s = .ok (t, lines)) :
    t.locationOf x = s.locationOf x ∨ a.Transfers x ∨
      x = a.object.id ∧ a.builtin = true ∧ a.Brings s (t.locationOf x) := by
  obtain ⟨s₁, s₂, trophies, s₃, s₄, arrival, hstate, hmarks, hmoves, hlit, hscene, -⟩ :=
    apply_eq_ok h
  have hbefore : OnlyMarks s s₂ :=
    (onlyFlags_changeState hstate).onlyMarks.trans (onlyMarks_leaveMarks hmarks)
  have hs₂ : Placed w s₂ := hbefore.sameHolders.placed hs
  unfold moveObjects at hmoves
  rw [bind_eq_ok] at hmoves
  obtain ⟨u, hhand, hwritten⟩ := hmoves
  obtain ⟨-, log, hmoved, hlog⟩ := moveAsWritten_eq_ok hwritten
  have hu : Placed w u := by
    rcases moveByHand_eq_ok hhand with rfl | ⟨-, p, -, hmove⟩
    · exact hs₂
    · exact hs₂.move hmove
  by_cases htransfers : a.Transfers x
  · exact .inr (.inl htransfers)
  -- neither the transfers nor what comes after the moves change where the object is
  · have hlater : t.locationOf x = u.locationOf x := by
      have hafter := (Deed.of_onlyFlags (onlyFlags_relit hlit)).append (deed_of_changeScene hscene)
      refine ((hmoved.append hafter.moved).locationOf_eq hu fun m hm => ?_)
      rw [List.append_nil, List.append_nil] at hm
      rintro rfl
      exact htransfers (hlog m hm)
    rcases moveByHand_eq_ok hhand with rfl | ⟨hbuiltin, p, hbrings, hmove⟩
    · exact .inl (hlater.trans hbefore.sameHolders.locationOf)
    · by_cases hx : x = a.object.id
      · subst hx
        have hplace : t.locationOf a.object.id = p := hlater.trans (locationOf_move hs₂ hmove)
        obtain ⟨_, _, rfl⟩ := hbefore
        rw [hplace]
        refine .inr (.inr ⟨rfl, hbuiltin, ?_⟩)
        cases hbrings with
        | take hverb => exact .take hverb
        | drop hverb => exact .drop hverb
        | put hverb htarget => exact .put hverb htarget
      · exact .inl (hlater.trans ((locationOf_move_of_ne hs₂ hmove hx).trans
          hbefore.sameHolders.locationOf))

end Action

/-! ## Reach -/

namespace Planned

variable {messages : Messages} {command : Command} {a : Action}

/-- What something is put into by hand is open when the command is given: the built-in part has
been tried in the state as it was. -/
theorem target_open (h : Planned w messages s command a) (hbuiltin : a.builtin = true)
    (hverb : a.verb = .put) {target : Object} (htarget : a.target = some target) :
    s.isOpen target.id = true := by
  have hworks := h.works
  unfold Action.builtinRefusal at hworks
  rw [if_pos hbuiltin] at hworks
  split at hworks
  · rename_i t htry
    unfold Action.builtinPart at htry
    rw [bind_eq_ok] at htry
    obtain ⟨u, hstate, hmove⟩ := htry
    unfold Action.builtinState at hstate
    simp only [hverb] at hstate
    obtain rfl := Except.ok.inj hstate
    unfold Action.builtinMove at hmove
    simp only [hverb, htarget] at hmove
    split at hmove
    · obtain ⟨-, -, -, -, htakes, -⟩ :=
        move_eq_ok_iff.mp (move_of_putDown (mapError_eq_ok.mp hmove))
      have hopen := htakes.lid target.id rfl rfl
      unfold isOpen at hopen ⊢
      rw [← (sameBesides_unplace (o := a.object.id)).flags]
      exact hopen
    · cases hmove
  · cases hworks
  · cases hworks

end Planned

/-- The command brings the object to a place by hand. The object is what the noun of the command
stands for, and every container around it is open. It is taken into the hands, dropped in the
scene, or put into what the other noun stands for; that is open then, with every container around
it. -/
structure ByHand (w : World) (messages : Messages) (s : GameState) (command : Command) (x : Id)
    (p : Place) : Prop where
  noun : ∃ noun o, Command.noun? command.object = some noun ∧
    s.locate w messages noun = .ok (.object o) ∧ o.id = x
  reached : ∀ c, TransGen s.Inside x c → s.isOpen c = true
  brought : Verb.ofText command.verb = .take ∧ p = .inventory ∨
    Verb.ofText command.verb = .drop ∧ p = .scene s.currentScene ∨
    Verb.ofText command.verb = .put ∧ ∃ noun o, Command.noun? command.target = some noun ∧
      s.locate w messages noun = .ok (.object o) ∧ p = .container o.id ∧
      ∀ c, ReflTransGen s.Inside o.id c → s.isOpen c = true

/-- The command, which is no walk, carries out an interaction with a transfer that names the
object. -/
def Transferred (w : World) (messages : Messages) (s : GameState) (command : Command) (x : Id) :
    Prop :=
  command.heading? = none ∧ ∃ a after lines, s.plan w messages command = .ok (.act a) ∧
    a.apply w s = .ok (after, lines) ∧ a.Transfers x

namespace GameState

variable {messages : Messages} {command : Command} {a : Action}

/-- Every container around what a noun stands for is open. -/
theorem open_around (hw : w.Coherent) (hs : s.OneHolder) {noun : String} {o : Object}
    (h : s.locate w messages noun = .ok (.object o)) :
    ∀ c, TransGen s.Inside o.id c → s.isOpen c = true := by
  obtain ⟨id, lit, -, ho, -, -, hopen⟩ := locate_eq_object h
  rw [hw.key id o ho]
  exact fun c hc => hopen c ((mem_enclosing_iff hs).mpr hc)

/-- What a planned action brings somewhere by hand could be reached. -/
theorem byHand_of_brings (hw : w.Coherent) (hs : s.OneHolder) (h : Planned w messages s command a)
    (hbuiltin : a.builtin = true) {p : Place} (hbrings : a.Brings s p) :
    ByHand w messages s command a.object.id p := by
  obtain ⟨noun, hnoun, hlocated⟩ := h.object
  refine ⟨⟨noun, a.object, hnoun, hlocated, rfl⟩, open_around hw hs hlocated, ?_⟩
  rw [← h.verb]
  cases hbrings with
  | take hverb => exact .inl ⟨hverb, rfl⟩
  | drop hverb => exact .inr (.inl ⟨hverb, rfl⟩)
  | @put target hverb htarget =>
    refine .inr (.inr ⟨hverb, ?_⟩)
    cases hnoun' : Command.noun? command.target with
    | none =>
      rw [h.untargeted hnoun'] at htarget
      cases htarget
    | some noun' =>
      obtain ⟨o, ho, hlocated'⟩ := h.target noun' hnoun'
      rw [htarget] at ho
      obtain rfl := Option.some.inj ho
      refine ⟨noun', target, rfl, hlocated', rfl, fun c hc => ?_⟩
      rcases reflTransGen_iff_eq_or_transGen.mp hc with rfl | hc
      · exact h.target_open hbuiltin hverb htarget
      · exact open_around hw hs hlocated' c hc

/-- **What a command leaves in its place**: every object but one that it moves by hand and those
that the transfers of its interaction name. -/
theorem locationOf_execute (hw : w.Coherent) (hs : Placed w s)
    (hhere : w.hasScene s.currentScene = true) (settings : Settings) (command : Command) (x : Id) :
    (s.execute w settings command).2.locationOf x = s.locationOf x ∨
      Transferred w settings.messages s command x ∨
      ByHand w settings.messages s command x ((s.execute w settings command).2.locationOf x) := by
  rcases execute_cases hs hhere settings command with hsame | ⟨t, events, hcarried, htick⟩
  · exact .inl (by rw [hsame])
  · have hpassed : (s.execute w settings command).2.locationOf x = t.locationOf x := by
      have hturn : t.SameHolders { t with turnCount := t.turnCount + 1 } := ⟨rfl, rfl, rfl⟩
      exact (hturn.trans (onlyBurnt_tick htick).sameHolders).locationOf
    rw [hpassed]
    cases hcarried with
    | waited => exact .inl rfl
    | went _ _ htraverse =>
      obtain ⟨-, _, _, rfl⟩ := traverse_eq htraverse
      exact .inl (SameHolders.locationOf ⟨rfl, rfl, rfl⟩)
    | @acted a lines _ hheading hplan happly =>
      rcases Action.locationOf_apply (x := x) hs happly with
        hstays | htransfers | ⟨rfl, hbuiltin, hbrings⟩
      · exact .inl hstays
      · exact .inr (.inl ⟨hheading, a, _, lines, hplan, happly, htransfers⟩)
      · exact .inr (.inr (byHand_of_brings hw hs.single (planned_of_plan hplan) hbuiltin hbrings))

end GameState

/-! ## Closed containers -/

section Closed

variable {messages : Messages} {command : Command} {c : Id}

/-- Nothing is moved by hand out of a closed container. -/
theorem ByHand.not_inside {p : Place} (h : ByHand w messages s command x p)
    (hclosed : s.isOpen c = false) : ¬ TransGen s.Inside x c := by
  intro hin
  rw [h.reached c hin] at hclosed
  cases hclosed

/-- Nothing is moved by hand into a closed container. -/
theorem ByHand.not_into {holder : Id} (h : ByHand w messages s command x (.container holder))
    (hclosed : s.isOpen c = false) : ¬ ReflTransGen s.Inside holder c := by
  intro hin
  rcases h.brought with ⟨-, hp⟩ | ⟨-, hp⟩ | ⟨-, noun, o, -, -, hp, hopen⟩
  · cases hp
  · cases hp
  · obtain rfl := Place.container.inj hp
    rw [hopen c hin] at hclosed
    cases hclosed

/-- Each object that changes its place is transferred, or moved by hand to where it is then. -/
def Accounted (w : World) (messages : Messages) (s : GameState) (command : Command)
    (t : GameState) : Prop :=
  ∀ x, t.locationOf x = s.locationOf x ∨ Transferred w messages s command x ∨
    ByHand w messages s command x (t.locationOf x)

/-- A transfer moves something that is the object or around it, and that is inside the container,
before or after. -/
def Carried (w : World) (messages : Messages) (s : GameState) (command : Command)
    (t : GameState) (x c : Id) : Prop :=
  ∃ z, Transferred w messages s command z ∧ t.locationOf z ≠ s.locationOf z ∧
    (ReflTransGen s.Inside x z ∧ TransGen s.Inside z c ∨
      ReflTransGen t.Inside x z ∧ TransGen t.Inside z c)

/-- What is inside a closed container stays there unless a transfer takes it out. -/
theorem Accounted.stays_inside (h : Accounted w messages s command t) (hs : s.OneHolder)
    (ht : t.OneHolder) (hclosed : s.isOpen c = false) (hin : TransGen s.Inside x c) :
    TransGen t.Inside x c ∨ ∃ z, Transferred w messages s command z ∧
      t.locationOf z ≠ s.locationOf z ∧ ReflTransGen s.Inside x z ∧ TransGen s.Inside z c := by
  -- on the way out from the object to the container; the first step either is still there or has
  -- been undone by a transfer
  have hstep : ∀ {x y}, s.Inside x y → TransGen s.Inside x c →
      t.Inside x y ∨ Transferred w messages s command x ∧ t.locationOf x ≠ s.locationOf x := by
    intro x y hxy hxc
    by_cases hx : t.locationOf x = s.locationOf x
    · exact .inl (ht.inside_iff.mpr (hx.trans (hs.inside_iff.mp hxy)))
    · refine .inr ⟨?_, hx⟩
      rcases h x with hsame | htransferred | hbyHand
      · exact (hx hsame).elim
      · exact htransferred
      · exact (hbyHand.not_inside hclosed hxc).elim
  induction hin using TransGen.head_induction_on with
  | single hxc =>
    rcases hstep hxc (.single hxc) with hafter | ⟨htransferred, hne⟩
    · exact .inl (.single hafter)
    · exact .inr ⟨_, htransferred, hne, .refl, .single hxc⟩
  | head hxy hyc ih =>
    rcases hstep hxy (.head hxy hyc) with hafter | ⟨htransferred, hne⟩
    · rcases ih with hyc' | ⟨z, hz, hne, hyz, hzc⟩
      · exact .inl (.head hafter hyc')
      · exact .inr ⟨z, hz, hne, .head hxy hyz, hzc⟩
    · exact .inr ⟨_, htransferred, hne, .refl, .head hxy hyc⟩

/-- What is inside a closed container has been there unless a transfer brought it in. -/
theorem Accounted.was_inside (h : Accounted w messages s command t) (hs : s.OneHolder)
    (ht : t.OneHolder) (hclosed : s.isOpen c = false) (hin : TransGen t.Inside x c) :
    TransGen s.Inside x c ∨ ∃ z, Transferred w messages s command z ∧
      t.locationOf z ≠ s.locationOf z ∧ ReflTransGen t.Inside x z ∧ TransGen t.Inside z c := by
  have hstep : ∀ {x y}, t.Inside x y → ReflTransGen s.Inside y c →
      s.Inside x y ∨ Transferred w messages s command x ∧ t.locationOf x ≠ s.locationOf x := by
    intro x y hxy hyc
    by_cases hx : t.locationOf x = s.locationOf x
    · exact .inl (hs.inside_iff.mpr (hx.symm.trans (ht.inside_iff.mp hxy)))
    · refine .inr ⟨?_, hx⟩
      rcases h x with hsame | htransferred | hbyHand
      · exact (hx hsame).elim
      · exact htransferred
      · rw [ht.inside_iff.mp hxy] at hbyHand
        exact (hbyHand.not_into hclosed hyc).elim
  induction hin using TransGen.head_induction_on with
  | single hxc =>
    rcases hstep hxc .refl with hbefore | ⟨htransferred, hne⟩
    · exact .inl (.single hbefore)
    · exact .inr ⟨_, htransferred, hne, .refl, .single hxc⟩
  | head hxy hyc ih =>
    rcases ih with hyc' | ⟨z, hz, hne, hyz, hzc⟩
    · rcases hstep hxy hyc'.to_reflTransGen with hbefore | ⟨htransferred, hne⟩
      · exact .inl (.head hbefore hyc')
      · exact .inr ⟨_, htransferred, hne, .refl, .head hxy hyc⟩
    · exact .inr ⟨z, hz, hne, .head hxy hyz, hzc⟩

/-- **Only transfers change what is inside a closed container**, at any depth. -/
theorem Accounted.closed_contents (h : Accounted w messages s command t) (hs : s.OneHolder)
    (ht : t.OneHolder) (hclosed : s.isOpen c = false)
    (hne : ¬ (TransGen t.Inside x c ↔ TransGen s.Inside x c)) :
    Carried w messages s command t x c := by
  by_cases hin : TransGen s.Inside x c
  · rcases h.stays_inside hs ht hclosed hin with hafter | ⟨z, hz, hmoved, hxz, hzc⟩
    · exact (hne ⟨fun _ => hin, fun _ => hafter⟩).elim
    · exact ⟨z, hz, hmoved, .inl ⟨hxz, hzc⟩⟩
  · by_cases hafter : TransGen t.Inside x c
    · rcases h.was_inside hs ht hclosed hafter with hbefore | ⟨z, hz, hmoved, hxz, hzc⟩
      · exact (hin hbefore).elim
      · exact ⟨z, hz, hmoved, .inr ⟨hxz, hzc⟩⟩
    · exact (hne ⟨fun hafter' => (hafter hafter').elim, fun hin' => (hin hin').elim⟩).elim

end Closed

end TextAdventure
