import TextAdventure.Proofs.State.Placed
import TextAdventure.Play.Container

/-!
# Moving an object

Every move of an object goes through `move`, and `move_eq_ok_iff` says once when it goes through
and what it leaves: the object is taken out of its holder and put into a place that exists, is
reached, is not inside the object and has room. So a move keeps a state well placed
(`WellPlaced.move`) and changes nothing but the holders (`sameBesides_move`).

A move that is refused has taken the object out already. In a placed state it is always put back
(`tryMove_eq`), since it has come from a place that exists.

A `Moved` run is a sequence of moves with changes of other kinds between them.
-/

namespace TextAdventure

open Std Relation

namespace World

/-- The largest load that a place may have, if there is one. -/
def limit (w : World) : Place → Option Nat
  | .container id => ((w.objects[id]?).bind (·.container)).map (·.capacity)
  | .inventory => w.carryLimit
  | .scene _ | .nowhere => none

variable {w : World} {id : Id} {spec : Authored.Container}

@[simp] theorem containerSpec_eq_ok :
    w.containerSpec id = .ok spec ↔ ∃ o, w.objects[id]? = some o ∧ o.container = some spec := by
  unfold containerSpec
  simp only [liftM_containerError, bind_eq_ok, mapError_eq_ok, object_eq_ok]
  constructor
  · rintro ⟨o, ho, h⟩
    cases hspec : o.container with
    | none => simp [hspec] at h
    | some spec' =>
      simp only [hspec, pure_eq_ok] at h
      exact ⟨o, ho, by rw [hspec, h]⟩
  · rintro ⟨o, ho, hspec⟩
    exact ⟨o, ho, by rw [hspec]; rfl⟩

end World

namespace GameState

variable {w : World} {s t u : GameState} {byHand : Bool} {item holder : Id} {p : Place}

/-! ## Asking -/

/-- By hand one reaches into open containers only. -/
theorem reachInto_eq_ok_iff :
    s.reachInto w byHand holder = .ok () ↔ (byHand = true → s.isOpen holder = true) := by
  cases byHand with
  | false => simp [reachInto]
  | true =>
    unfold reachInto lidError
    cases hopen : s.isOpen holder with
    | true => simp
    | false => cases hname : w.nameOf holder <;> simp

theorem reachOut_eq_ok_iff : s.reachOut w byHand p = .ok () ↔
    ∀ holder, p = .container holder → byHand = true → s.isOpen holder = true := by
  cases p with
  | container c =>
    rw [show s.reachOut w byHand (.container c) = s.reachInto w byHand c from rfl,
      reachInto_eq_ok_iff]
    constructor
    · intro h holder hp
      rw [← Place.container.inj hp]
      exact h
    · exact fun h => h c rfl
  | _ => simp [reachOut]

/-- The place has room for an object that nothing holds. -/
def Fits (s : GameState) (w : World) (item : Id) (p : Place) : Prop :=
  ∀ cap, w.limit p = some cap → ∃ load weight, s.loadOf w p = .ok load ∧
    s.totalWeight w item = .ok weight ∧ addCapped load weight ≤ cap

/-- The place takes an object that nothing holds: a container must exist, must not be inside the
object, and must be open by hand. -/
structure Takes (s : GameState) (w : World) (byHand : Bool) (item : Id) (p : Place) : Prop where
  container : ∀ holder, p = .container holder → w.HasPlace p
  free : ∀ holder, p = .container holder → ¬ (holder = item ∨ item ∈ s.enclosing holder)
  lid : ∀ holder, p = .container holder → byHand = true → s.isOpen holder = true
  room : s.Fits w item p

theorem askContainer_eq_ok_iff :
    s.askContainer w byHand item holder = .ok () ↔ s.Takes w byHand item (.container holder) := by
  unfold askContainer
  simp only [bind_eq_ok, World.containerSpec_eq_ok]
  constructor
  · rintro ⟨spec, ⟨o, ho, hspec⟩, h⟩
    split at h
    · simp at h
    · rename_i hfree
      simp only [bind_eq_ok, liftM_containerError, mapError_eq_ok] at h
      -- the questions in their order: is it inside, is it open, is there room
      obtain ⟨_, hreach, load, hload, weight, hweight, h⟩ := h
      split at h
      · simp at h
      · rename_i hroom
        refine ⟨?_, ?_, ?_, ?_⟩
        · intro c hc
          exact ⟨o, ho, by unfold Object.isContainer; rw [hspec]; rfl⟩
        · rintro c hc
          obtain rfl := Place.container.inj hc
          exact hfree
        · rintro c hc
          obtain rfl := Place.container.inj hc
          exact reachInto_eq_ok_iff.mp hreach
        · intro cap hcap
          have heq : spec.capacity = cap := by
            simpa [World.limit, ho, hspec] using hcap
          exact ⟨load, weight, hload, hweight, heq ▸ Nat.le_of_not_lt hroom⟩
  · intro h
    obtain ⟨o, ho, hcont⟩ := h.container holder rfl
    obtain ⟨spec, hspec⟩ := Option.isSome_iff_exists.mp hcont
    have hlimit : w.limit (.container holder) = some spec.capacity := by
      simp [World.limit, ho, hspec]
    obtain ⟨load, weight, hload, hweight, hroom⟩ := h.room _ hlimit
    refine ⟨spec, ⟨o, ho, hspec⟩, ?_⟩
    rw [if_neg (h.free holder rfl)]
    simp only [bind_eq_ok, liftM_containerError, mapError_eq_ok]
    refine ⟨(), reachInto_eq_ok_iff.mpr (h.lid holder rfl), load, hload, weight, hweight, ?_⟩
    rw [if_neg (Nat.not_lt.mpr hroom)]
    rfl

/-- Outside of containers only room matters. -/
theorem takes_iff_fits (hp : ∀ holder, p ≠ .container holder) :
    s.Takes w byHand item p ↔ s.Fits w item p where
  mp h := h.room
  mpr h := ⟨fun c hc => (hp c hc).elim, fun c hc => (hp c hc).elim, fun c hc => (hp c hc).elim, h⟩

theorem askHands_eq_ok_iff :
    s.askHands w item = .ok () ↔ s.Takes w byHand item .inventory := by
  unfold askHands
  rw [takes_iff_fits fun _ => Place.noConfusion]
  unfold Fits World.limit
  cases hlimit : w.carryLimit with
  | none => simp
  | some limit =>
    simp only [bind_eq_ok, liftM_containerError, mapError_eq_ok]
    constructor
    · rintro ⟨load, hload, weight, hweight, h⟩ cap hcap
      obtain rfl := Option.some.inj hcap
      split at h
      · simp at h
      · rename_i hroom
        exact ⟨load, weight, hload, hweight, Nat.le_of_not_lt hroom⟩
    · intro h
      obtain ⟨load, weight, hload, hweight, hroom⟩ := h limit rfl
      refine ⟨load, hload, weight, hweight, ?_⟩
      rw [if_neg (Nat.not_lt.mpr hroom)]
      rfl

theorem ask_eq_ok_iff : s.ask w byHand item p = .ok () ↔ s.Takes w byHand item p := by
  cases p with
  | container c => exact askContainer_eq_ok_iff
  | inventory => exact askHands_eq_ok_iff
  | _ =>
    rw [takes_iff_fits fun _ => Place.noConfusion]
    refine ⟨fun _ cap hcap => ?_, fun _ => rfl⟩
    cases hcap

/-! ## Attempts -/

section Attempts

variable {question : Except ContainerError Unit} {next a : Attempt} {reason : ContainerError}

theorem result_eq_ok_iff : a.result = .ok t ↔ a.answer = .ok () ∧ a.state = t := by
  unfold Attempt.result
  cases a.answer <;> simp

@[simp] theorem result_whenAllowed :
    (s.whenAllowed question next).result = question >>= fun _ => next.result := by
  cases question <;> rfl

theorem pickUp_eq :
    s.pickUp w item = s.askPickUp w item >>= fun _ => s.move w true item .inventory :=
  result_whenAllowed

theorem putDown_eq :
    s.putDown w item p = s.askPutDown w item >>= fun _ => s.move w true item p :=
  result_whenAllowed

/-- What is put back has been refused. -/
theorem result_putBack : ∃ e, (s.putBack w item p reason).result = .error e := by
  unfold putBack
  split
  · exact ⟨_, rfl⟩
  · exact ⟨_, rfl⟩

theorem askSource_eq_ok_iff : s.askSource w byHand item p = .ok () ↔
    w.hasObject item = true ∧ s.locationOf item ≠ p ∧
      ∀ holder, s.locationOf item = .container holder → byHand = true →
        s.isOpen holder = true := by
  unfold askSource
  simp only [bind_eq_ok, liftM_containerError, mapError_eq_ok, World.object_eq_ok]
  constructor
  · rintro ⟨o, ho, h⟩
    split at h
    · simp at h
    · rename_i hne
      exact ⟨World.hasObject_iff.mpr ⟨o, ho⟩, hne, reachOut_eq_ok_iff.mp h⟩
  · rintro ⟨hobject, hne, hreach⟩
    obtain ⟨o, ho⟩ := World.hasObject_iff.mp hobject
    refine ⟨o, ho, ?_⟩
    rw [if_neg hne]
    exact reachOut_eq_ok_iff.mpr hreach

theorem accept_eq_ok_iff : s.accept w byHand item p = .ok t ↔
    s.Takes w byHand item p ∧ w.hasObject item = true ∧ w.HasPlace p ∧ t = s.added item p := by
  unfold accept
  simp only [bind_eq_ok, liftM_containerError, mapError_eq_ok, place_eq_ok_iff]
  constructor
  · rintro ⟨_, hask, hplaced⟩
    exact ⟨ask_eq_ok_iff.mp hask, hplaced⟩
  · rintro ⟨htakes, hplaced⟩
    exact ⟨(), ask_eq_ok_iff.mpr htakes, hplaced⟩

/-- In a placed state every object that was taken out can be put back, which undoes it. -/
theorem putBack_unplace (hs : Placed w s) (hitem : w.hasObject item = true) :
    (s.unplace item).putBack w item (s.locationOf item) reason = ⟨.error reason, s⟩ := by
  have hback : (s.unplace item).place w item (s.locationOf item) = .ok s :=
    place_eq_ok_iff.mpr ⟨hitem, hs.hasPlace_locationOf item, added_unplace.symm⟩
  unfold putBack
  rw [hback]

/-- What moving an object in a placed state comes to: nothing is left of a move that is refused
half way. -/
theorem tryMove_eq (hs : Placed w s) : s.tryMove w byHand item p =
    s.whenAllowed (s.askSource w byHand item p)
      (match (s.unplace item).accept w byHand item p with
      | .ok t => ⟨.ok (), t⟩
      | .error reason => ⟨.error reason, s⟩) := by
  unfold tryMove whenAllowed
  cases hask : s.askSource w byHand item p with
  | error e => rfl
  | ok _ =>
    have hitem := (askSource_eq_ok_iff.mp hask).1
    cases (s.unplace item).accept w byHand item p with
    | ok t => rfl
    | error reason => exact putBack_unplace hs hitem

end Attempts

/-! ## One move -/

/-- A move goes through when the object can leave its holder and is accepted; what is put back is
never the end of one. -/
theorem move_eq_ok : s.move w byHand item p = .ok t ↔
    s.askSource w byHand item p = .ok () ∧ (s.unplace item).accept w byHand item p = .ok t := by
  unfold move tryMove
  rw [result_whenAllowed, bind_eq_ok]
  cases (s.unplace item).accept w byHand item p with
  | ok u => cases s.askSource w byHand item p <;> simp [Attempt.result]
  | error reason =>
    obtain ⟨e, he⟩ : ∃ e, ((s.unplace item).putBack w item (s.locationOf item) reason).result
      = .error e := result_putBack
    simp [he]

/-- When a move goes through, and the state that it leaves. By hand nothing is taken out of a
closed container. -/
theorem move_eq_ok_iff : s.move w byHand item p = .ok t ↔
    w.hasObject item = true ∧ w.HasPlace p ∧ s.locationOf item ≠ p ∧
      (∀ holder, s.locationOf item = .container holder → byHand = true →
        s.isOpen holder = true) ∧
      (s.unplace item).Takes w byHand item p ∧ t = (s.unplace item).added item p := by
  rw [move_eq_ok, askSource_eq_ok_iff, accept_eq_ok_iff]
  constructor
  · rintro ⟨⟨hobject, hne, hreach⟩, htakes, -, hplace, rfl⟩
    exact ⟨hobject, hplace, hne, hreach, htakes, rfl⟩
  · rintro ⟨hobject, hplace, hne, hreach, htakes, rfl⟩
    exact ⟨⟨hobject, hne, hreach⟩, htakes, hobject, hplace, rfl⟩

/-- A container that takes an object is not inside it. -/
theorem Takes.not_inside (h : s.Takes w byHand item p) (hs : s.OneHolder) :
    ∀ holder, p = .container holder → ¬ ReflTransGen s.Inside holder item := by
  intro holder hp hinside
  refine h.free holder hp ?_
  rcases reflTransGen_iff_eq_or_transGen.mp hinside with heq | hinside
  · exact .inl heq.symm
  · exact .inr ((mem_enclosing_iff hs).mpr hinside)

/-- A move keeps a state placed. -/
theorem Placed.move (hs : Placed w s) (h : s.move w byHand item p = .ok t) : Placed w t := by
  obtain ⟨hobject, hplace, -, -, -, rfl⟩ := move_eq_ok_iff.mp h
  exact hs.unplace.added (fun _ => hs.single.not_holds_unplace) hobject hplace

/-- A move keeps a state well placed. The test for a container inside the object is made when the
object has been taken out already; that changes nothing about what is around the container as
long as it is not inside the object. -/
theorem WellPlaced.move (hs : WellPlaced w s) (h : s.move w byHand item p = .ok t) :
    WellPlaced w t := by
  obtain ⟨hobject, hplace, -, -, htakes, rfl⟩ := move_eq_ok_iff.mp h
  -- `enclosing` of the state without the item finds the item only inside the item itself
  have hout := hs.unplace (o := item)
  exact hout.added (fun _ => hs.single.not_holds_unplace) hobject hplace
    (htakes.not_inside hout.single)

/-- A move changes nothing but the holders. -/
theorem sameBesides_move (h : s.move w byHand item p = .ok t) : SameBesides s t := by
  obtain ⟨-, -, -, -, -, rfl⟩ := move_eq_ok_iff.mp h
  exact sameBesides_unplace.trans sameBesides_added

end GameState

/-! ## Runs of moves -/

/-- A move that went through, with the states before and after it. -/
structure Move where
  before : GameState
  byHand : Bool
  item : Id
  destination : Place
  after : GameState

/-- The moves, one after the other, account for every difference between the holders of two
states. -/
inductive Moved (w : World) : GameState → List Move → GameState → Prop where
  | still {s t : GameState} (h : s.SameHolders t) : Moved w s [] t
  | move {s t : GameState} {m : Move} {log : List Move} (h : s.SameHolders m.before)
      (hm : m.before.move w m.byHand m.item m.destination = .ok m.after)
      (hrest : Moved w m.after log t) : Moved w s (m :: log) t

namespace Moved

open GameState

variable {w : World} {s t u : GameState} {log log' : List Move}

theorem of_sameHolders (h : Moved w s log t) (hs : u.SameHolders s) : Moved w u log t := by
  cases h with
  | still h => exact .still (hs.trans h)
  | move h hm hrest => exact .move (hs.trans h) hm hrest

theorem append (h : Moved w s log t) (h' : Moved w t log' u) : Moved w s (log ++ log') u := by
  induction h with
  | still hs => exact h'.of_sameHolders hs
  | move hs hm _ ih => exact .move hs hm (ih h')

theorem single {byHand : Bool} {item : Id} {p : Place} (h : s.move w byHand item p = .ok t) :
    Moved w s [⟨s, byHand, item, p, t⟩] t :=
  .move .rfl h (.still .rfl)

/-- Whatever a move preserves holds after a run of moves, and before and after each of them. -/
theorem invariant {P : GameState → Prop} (hsame : ∀ s t, s.SameHolders t → P s → P t)
    (hmove : ∀ s byHand item p t, P s → s.move w byHand item p = .ok t → P t)
    (h : Moved w s log t) (hs : P s) : P t ∧ ∀ m ∈ log, P m.before ∧ P m.after := by
  induction h with
  | still hst => exact ⟨hsame _ _ hst hs, fun m hm => (List.not_mem_nil hm).elim⟩
  | @move s t m log hsm hm _ ih =>
    have hbefore := hsame _ _ hsm hs
    have hafter := hmove _ _ _ _ _ hbefore hm
    obtain ⟨ht, hlog⟩ := ih hafter
    refine ⟨ht, fun m' hm' => ?_⟩
    rcases List.mem_cons.mp hm' with rfl | hm'
    · exact ⟨hbefore, hafter⟩
    · exact hlog m' hm'

theorem placed (h : Moved w s log t) (hs : Placed w s) : Placed w t :=
  (h.invariant (fun _ _ hsame hs => hsame.placed hs) (fun _ _ _ _ _ hs hm => hs.move hm) hs).1

theorem wellPlaced (h : Moved w s log t) (hs : WellPlaced w s) : WellPlaced w t :=
  (h.invariant (fun _ _ hsame hs => hsame.wellPlaced hs)
    (fun _ _ _ _ _ hs hm => hs.move hm) hs).1

end Moved

end TextAdventure
