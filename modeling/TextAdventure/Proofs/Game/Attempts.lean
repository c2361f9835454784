import TextAdventure.Proofs.Game.Contents
import TextAdventure.Proofs.Play.Handling
import TextAdventure.Proofs.State.Loads

/-!
# Moves are all or nothing

An operation on containers changes the state in place. It takes the object out before it asks the
destination, so that the destination is asked in a state that is neither the one before nor the one
after, and it has to put the object back when the answer is no. In a well-placed state every such
operation is one move: it goes through and brings the object to the destination, or it is refused
and leaves everything as it was (`moves_atomic`).

What the destination is asked is about the state in between. Loads are counted without the object;
but what is inside the object, and so its weight and the containers that it must not get into, is
the same as before (`transGen_unplace_iff`, `totalWeight_unplace`).
-/

namespace TextAdventure

open Std Relation GameState Game

namespace GameState

variable {w : World} {s : GameState} {item c : Id} {p : Place} {byHand : Bool}

/-! ## One move -/

/-- The attempt brings the object to the place and changes nothing else, or it is refused and
changes nothing at all. -/
def OneMove (w : World) (s : GameState) (item : Id) (p : Place) (a : Attempt) : Prop :=
  match a.answer with
  | .ok () =>
    a.state.locationOf item = p ∧ (∀ x, x ≠ item → a.state.locationOf x = s.locationOf x) ∧
      SameBesides s a.state ∧ WellPlaced w a.state
  | .error _ => a.state = s

theorem OneMove.unchanged {a : Attempt} (h : s.OneMove w item p a) (hno : a.answer.isOk = false) :
    a.state = s := by
  unfold OneMove at h
  split at h
  · rename_i hok
    rw [hok] at hno
    cases hno
  · exact h

theorem OneMove.moved {a : Attempt} (h : s.OneMove w item p a) (hok : a.answer = .ok ()) :
    a.state.locationOf item = p := by
  unfold OneMove at h
  rw [hok] at h
  exact h.1

/-- A refusal before the move changes nothing. -/
theorem oneMove_whenAllowed {question : Except ContainerError Unit} {next : Attempt}
    (h : s.OneMove w item p next) : s.OneMove w item p (s.whenAllowed question next) := by
  cases question with
  | ok _ => exact h
  | error reason => exact Eq.refl s

theorem oneMove_tryMove (hs : WellPlaced w s) :
    s.OneMove w item p (s.tryMove w byHand item p) := by
  rw [tryMove_eq hs.toPlaced]
  cases hask : s.askSource w byHand item p with
  | error reason => exact Eq.refl s
  | ok _ =>
    cases haccept : (s.unplace item).accept w byHand item p with
    | error reason => exact Eq.refl s
    | ok t =>
      have hmove : s.move w byHand item p = .ok t := move_eq_ok.mpr ⟨hask, haccept⟩
      exact ⟨locationOf_move hs.toPlaced hmove,
        fun x hx => locationOf_move_of_ne hs.toPlaced hmove hx, sameBesides_move hmove,
        hs.move hmove⟩

/-- Taking an object out of a container leaves it nowhere. -/
theorem oneMove_tryRemoveItem (hs : WellPlaced w s) :
    s.OneMove w item .nowhere (s.tryRemoveItem w c item) := by
  refine oneMove_whenAllowed ⟨?_, fun x hx => ?_, sameBesides_unplace, hs.unplace⟩
  · exact locationOf_eq_nowhere.mpr fun _ => hs.single.not_holds_unplace
  · refine hs.single.unplace.locationOf_congr fun q => ?_
    rw [holds_unplace hs.single]
    exact and_iff_left hx

/-! ## What the destination takes -/

/-- A place that may be loaded up to a limit has room for the object once this is taken out of
wherever it is. -/
def Room (s : GameState) (w : World) (item : Id) (p : Place) (limit : Nat) : Prop :=
  ∃ load weight, (s.unplace item).loadOf w p = .ok load ∧ s.totalWeight w item = .ok weight ∧
    addCapped load weight ≤ limit

/-- The place takes the object, whatever the lids. -/
def Admits (s : GameState) (w : World) (item : Id) : Place → Prop
  | .nowhere => True
  | .scene id => w.hasScene id = true
  | .inventory => ∀ limit, w.carryLimit = some limit → s.Room w item .inventory limit
  | .container id => ∃ o spec, w.objects[id]? = some o ∧ o.container = some spec ∧
      id ≠ item ∧ item ∉ s.enclosing id ∧ s.Room w item (.container id) spec.capacity

theorem fits_unplace_iff (hs : WellPlaced w s) (hitem : w.hasObject item = true) :
    (s.unplace item).Fits w item p ↔
      ∀ limit, w.limit p = some limit → s.Room w item p limit := by
  unfold Fits Room
  rw [totalWeight_unplace hs hitem]

/-- The object is around a container exactly when it is so once it has been taken out. -/
theorem mem_enclosing_unplace (hs : WellPlaced w s) :
    item ∈ (s.unplace item).enclosing c ↔ item ∈ s.enclosing c := by
  rw [mem_enclosing_iff hs.single.unplace, mem_enclosing_iff hs.single,
    transGen_unplace_iff hs.single hs.acyclic]

theorem takes_unplace_iff (hs : WellPlaced w s) (hitem : w.hasObject item = true) :
    w.HasPlace p ∧ (s.unplace item).Takes w false item p ↔ s.Admits w item p := by
  cases p with
  | container id =>
    constructor
    · rintro ⟨⟨o, ho, hcont⟩, htakes⟩
      obtain ⟨spec, hspec⟩ := Option.isSome_iff_exists.mp hcont
      have hlimit : w.limit (.container id) = some spec.capacity := by
        simp [World.limit, ho, hspec]
      obtain ⟨hself, hinside⟩ := not_or.mp (htakes.free id rfl)
      rw [mem_enclosing_unplace hs] at hinside
      exact ⟨o, spec, ho, hspec, hself, hinside,
        (fits_unplace_iff hs hitem).mp htakes.room _ hlimit⟩
    · rintro ⟨o, spec, ho, hspec, hself, hinside, hroom⟩
      have hplace : w.HasPlace (.container id) :=
        ⟨o, ho, by unfold Object.isContainer; rw [hspec]; rfl⟩
      refine ⟨hplace, fun _ _ => hplace, fun holder heq => ?_, fun _ _ hhand => ?_, ?_⟩
      · obtain rfl := Place.container.inj heq
        rw [mem_enclosing_unplace hs]
        exact not_or.mpr ⟨hself, hinside⟩
      · cases hhand
      · refine (fits_unplace_iff hs hitem).mpr fun limit hlimit => ?_
        obtain rfl : spec.capacity = limit := by
          simpa [World.limit, ho, hspec] using hlimit
        exact hroom
  | _ =>
    -- outside of containers there is only room to ask for
    rw [takes_iff_fits fun _ => Place.noConfusion, fits_unplace_iff hs hitem]
    simp [Admits, World.HasPlace, World.limit]

/-- A transfer goes through exactly when the object exists, is elsewhere, and is taken. -/
theorem tryTransfer_eq_ok_iff (hs : WellPlaced w s) :
    (s.tryTransfer w item p).answer = .ok () ↔
      w.hasObject item = true ∧ s.locationOf item ≠ p ∧ s.Admits w item p := by
  have hmove : (s.tryTransfer w item p).answer = .ok () ↔
      ∃ t, s.move w false item p = .ok t := by
    simp only [move, result_eq_ok_iff, exists_and_left, exists_eq', and_true]
    rfl
  rw [hmove]
  constructor
  · rintro ⟨t, ht⟩
    obtain ⟨hitem, hplace, hne, -, htakes, -⟩ := move_eq_ok_iff.mp ht
    exact ⟨hitem, hne, (takes_unplace_iff hs hitem).mp ⟨hplace, htakes⟩⟩
  · rintro ⟨hitem, hne, hadmits⟩
    obtain ⟨hplace, htakes⟩ := (takes_unplace_iff hs hitem).mpr hadmits
    exact ⟨_, move_eq_ok_iff.mpr ⟨hitem, hplace, hne, fun _ _ hhand => Bool.noConfusion hhand,
      htakes, rfl⟩⟩

/-! ## All operations -/

/-- **Atomic moves.** In a well-placed state, every operation that moves an object brings it to its
destination and leaves everything else where it is, or is refused and leaves the state as it was;
and a transfer goes through exactly when the object exists, is elsewhere, and the destination takes
it. -/
theorem moves_atomic (hs : WellPlaced w s) (item : Id) :
    (∀ p, s.OneMove w item p (s.tryTransfer w item p)) ∧
    s.OneMove w item .inventory (s.tryPickUp w item) ∧
    (∀ p, s.OneMove w item p (s.tryPutDown w item p)) ∧
    (∀ c, s.OneMove w item (.container c) (s.tryAddItem w c item)) ∧
    (∀ c, s.OneMove w item .nowhere (s.tryRemoveItem w c item)) ∧
    ∀ p, (s.tryTransfer w item p).answer = .ok () ↔
      w.hasObject item = true ∧ s.locationOf item ≠ p ∧ s.Admits w item p :=
  ⟨fun _ => oneMove_tryMove hs, oneMove_whenAllowed (oneMove_tryMove hs),
    fun _ => oneMove_whenAllowed (oneMove_tryMove hs), fun _ => oneMove_tryMove hs,
    fun _ => oneMove_tryRemoveItem hs, fun _ => tryTransfer_eq_ok_iff hs⟩

end GameState

/-- In the attic the lamp does not fit into the box, whose load is the largest that can be counted,
and the trunk cannot go into what is inside it; the lamp can be put on the floor. -/
theorem attic_moves : ∃ w g, World.compile attic = .ok w ∧ Game.new w {} = .ok g ∧
    WellPlaced g.world g.state ∧
    (g.state.tryTransfer g.world "lamp" (.container "box")).answer.isOk = false ∧
    (g.state.tryTransfer g.world "lamp" (.container "box")).state = g.state ∧
    (g.state.tryTransfer g.world "trunk" (.container "box")).answer.isOk = false ∧
    (g.state.tryTransfer g.world "trunk" (.container "box")).state = g.state ∧
    (g.state.tryTransfer g.world "lamp" (.scene "attic")).state.locationOf "lamp" =
      .scene "attic" ∧
    g.state.Admits g.world "lamp" (.scene "attic") := by
  have hcheck : begun attic (fun g =>
      !(g.state.tryTransfer g.world "lamp" (.container "box")).answer.isOk &&
      !(g.state.tryTransfer g.world "trunk" (.container "box")).answer.isOk &&
      (g.state.tryTransfer g.world "lamp" (.scene "attic")).answer.isOk) = true := by
    decide +kernel
  obtain ⟨w, g, hw, hg, hstate⟩ := exists_of_begun hcheck
  rw [Bool.and_eq_true, Bool.and_eq_true, Bool.not_eq_true', Bool.not_eq_true', isOk_iff] at hstate
  obtain ⟨⟨hfull, hinside⟩, ⟨⟩, hfloor⟩ := hstate
  have hplaced : WellPlaced g.world g.state := (reached (World.coherent_of_compile hw) hg []).2.1
  obtain ⟨hlamp, -, -, -, -, htaken⟩ := moves_atomic hplaced "lamp"
  obtain ⟨htrunk, -⟩ := moves_atomic hplaced "trunk"
  exact ⟨w, g, hw, hg, hplaced, hfull, (hlamp _).unchanged hfull, hinside,
    (htrunk _).unchanged hinside, (hlamp _).moved hfloor, ((htaken _).mp hfloor).2.2⟩

end TextAdventure
