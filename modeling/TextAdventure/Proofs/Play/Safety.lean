import TextAdventure.Proofs.Play.Acting
import TextAdventure.Proofs.State.Weights
import TextAdventure.Proofs.World.Coherent

/-!
# Commands never meet a fault of the world

In a coherent world, from a well-placed state with the player in a scene, every lookup that a
command makes finds something: the operations may refuse, but they are free of faults. Weights are
found because nothing is inside itself; the ids that an action looks up are its own
(`Action.Grounded`), those of the state, and those that its interaction refers to.
-/

namespace TextAdventure

open Std GameState

variable {w : World} {s t : GameState} {id item holder : Id} {p : Place} {byHand : Bool}

namespace GameState

/-! ## Moves -/

theorem faultFree_nameOf (h : w.hasObject id = true) :
    FaultFree ContainerError.world (liftM (w.nameOf id)) := by
  obtain ⟨name, hname⟩ := World.nameOf_ok h
  rw [liftM_containerError, hname]
  exact .ok name

theorem faultFree_reachInto (h : w.hasObject holder = true) :
    FaultFree .world (s.reachInto w byHand holder) := by
  obtain ⟨name, hname⟩ := World.nameOf_ok h
  unfold reachInto lidError
  refine .ite (fun _ => ?_) fun _ => .ok ()
  split
  · exact .ok ()
  · rw [hname]
    refine .error fun cause heq => ?_
    split at heq <;> cases heq

theorem faultFree_askHands (hs : WellPlaced w s) (hitem : w.hasObject item = true) :
    FaultFree .world (s.askHands w item) := by
  unfold askHands
  split
  · rw [liftM_containerError, loadOf_eq hs Place.noConfusion, liftM_containerError,
      totalWeight_eq hs hitem]
    refine .ite (fun _ => ?_) fun _ => .ok ()
    exact .bind (faultFree_nameOf hitem) fun name _ => .error fun cause heq => by cases heq
  · exact .ok ()

theorem faultFree_askContainer (hs : WellPlaced w s) (hitem : w.hasObject item = true)
    (hp : w.HasPlace (.container holder)) :
    FaultFree .world (s.askContainer w byHand item holder) := by
  obtain ⟨o, ho, hcont⟩ := hp
  obtain ⟨spec, hspec⟩ := Option.isSome_iff_exists.mp hcont
  have hholder : w.hasObject holder = true := World.hasObject_iff.mpr ⟨o, ho⟩
  unfold askContainer
  rw [World.containerSpec_eq_ok.mpr ⟨o, ho, hspec⟩, ok_bind]
  refine .ite (fun _ => ?_) fun _ => ?_
  · exact .bind (faultFree_nameOf hitem) fun name _ => .error fun cause heq => by cases heq
  · refine .bind (faultFree_reachInto hholder) fun _ _ => ?_
    rw [liftM_containerError, loadOf_eq hs Place.noConfusion, liftM_containerError,
      totalWeight_eq hs hitem]
    refine .ite (fun _ => ?_) fun _ => .ok ()
    refine .bind (faultFree_nameOf hitem) fun name _ => ?_
    exact .bind (faultFree_nameOf hholder) fun name' _ => .error fun cause heq => by cases heq

theorem faultFree_ask (hs : WellPlaced w s) (hitem : w.hasObject item = true)
    (hp : w.HasPlace p) : FaultFree .world (s.ask w byHand item p) := by
  cases p with
  | container c => exact faultFree_askContainer hs hitem hp
  | inventory => exact faultFree_askHands hs hitem
  | scene c => exact .ok ()
  | nowhere => exact .ok ()

/-- An object that exists leaves its holder without faults. -/
theorem faultFree_askSource (hs : WellPlaced w s) (hitem : w.hasObject item = true) :
    FaultFree .world (s.askSource w byHand item p) := by
  obtain ⟨o, ho⟩ := World.hasObject_iff.mp hitem
  unfold askSource
  rw [liftM_containerError, World.object_eq_ok.mpr ho]
  refine .ite (fun _ => .error fun cause heq => by cases heq) fun _ => ?_
  cases hloc : s.locationOf item with
  | container c =>
    -- out of the holder, which exists
    have hmem := mem_containers_of_inside (inside_of_locationOf hloc)
    obtain ⟨holder, hholder, -⟩ := hs.containers c hmem
    exact faultFree_reachInto (World.hasObject_iff.mpr ⟨holder, hholder⟩)
  | _ => exact .ok ()

/-- A move of an object that exists to a place that exists is free of faults. -/
theorem faultFree_move (hs : WellPlaced w s) (hitem : w.hasObject item = true)
    (hp : w.HasPlace p) : FaultFree .world (s.move w byHand item p) := by
  unfold move
  rw [tryMove_eq hs.toPlaced, result_whenAllowed]
  refine .bind (faultFree_askSource hs hitem) fun _ _ => ?_
  have haccept : FaultFree .world ((s.unplace item).accept w byHand item p) := by
    unfold accept
    refine .bind (faultFree_ask hs.unplace hitem hp) fun _ _ => ?_
    exact .of_ok (mapError_eq_ok.mpr (place_eq_ok_iff.mpr ⟨hitem, hp, rfl⟩))
  cases hok : (s.unplace item).accept w byHand item p with
  | ok t => exact .ok t
  | error reason => exact .error fun cause heq => haccept cause (heq ▸ hok)

theorem faultFree_pickUp (hs : WellPlaced w s) (hitem : w.hasObject item = true) :
    FaultFree .world (s.pickUp w item) := by
  obtain ⟨o, ho⟩ := World.hasObject_iff.mp hitem
  rw [pickUp_eq]
  refine .bind ?_ fun _ _ => faultFree_move hs hitem trivial
  unfold askPickUp
  rw [liftM_containerError, World.object_eq_ok.mpr ho]
  refine .ite (fun _ => .error fun cause heq => by cases heq) fun _ => ?_
  exact .ite (fun _ => .error fun cause heq => by cases heq) fun _ => .ok ()

theorem faultFree_putDown (hs : WellPlaced w s) (hitem : w.hasObject item = true)
    (hp : w.HasPlace p) : FaultFree .world (s.putDown w item p) := by
  rw [putDown_eq]
  refine .bind ?_ fun _ _ => faultFree_move hs hitem hp
  unfold askPutDown
  refine .ite (fun _ => ?_) fun _ => .ok ()
  exact .bind (faultFree_nameOf hitem) fun name _ => .error fun cause heq => by cases heq

/-! ## Lids and lamps -/

theorem faultFree_containerSpec (h : w.hasObject id = true) :
    FaultFree .world (w.containerSpec id) := by
  obtain ⟨o, ho⟩ := World.hasObject_iff.mp h
  unfold World.containerSpec
  rw [liftM_containerError, World.object_eq_ok.mpr ho]
  refine .bind (.ok o) fun o' _ => ?_
  split
  · exact .ok _
  · exact .error fun cause heq => by cases heq

theorem faultFree_changeLid {reason : String → Option ContainerError} {flags : FlagSet}
    (h : w.hasObject id = true) (hreason : ∀ name cause, reason name ≠ some (.world cause)) :
    FaultFree .world (s.changeLid w id reason flags) := by
  unfold changeLid
  refine .bind (.discard (faultFree_containerSpec h)) fun _ _ => ?_
  refine .bind (faultFree_nameOf h) fun name _ => ?_
  split
  · rename_i e he
    exact .error fun cause heq => hreason name cause (heq ▸ he)
  · exact .ok _

theorem faultFree_switchOn (hs : Placed w s) (hhere : w.hasScene s.currentScene = true)
    (h : w.hasObject id = true) : FaultFree .world (s.switchOn w id) := by
  obtain ⟨o, ho⟩ := World.hasObject_iff.mp h
  unfold switchOn
  rw [liftM_lightError, World.object_eq_ok.mpr ho]
  refine .ite (fun _ => .error fun cause heq => by cases heq) fun _ => ?_
  split
  · exact .error fun cause heq => by cases heq
  · exact .error fun cause heq => by cases heq
  · have hsame : s.SameHolders { s with flags := s.flags.insert (.lightOn id) } := ⟨rfl, rfl, rfl⟩
    obtain ⟨t, ht⟩ := relit_ok (hsame.placed hs).known hhere
    exact .of_ok (mapError_eq_ok.mpr ht)

theorem faultFree_switchOff (hs : Placed w s) (hhere : w.hasScene s.currentScene = true)
    (h : w.hasObject id = true) : FaultFree .world (s.switchOff w id) := by
  obtain ⟨o, ho⟩ := World.hasObject_iff.mp h
  unfold switchOff
  rw [liftM_lightError, World.object_eq_ok.mpr ho]
  refine .ite (fun _ => .error fun cause heq => by cases heq) fun _ => ?_
  split
  · have hsame : s.SameHolders { s with flags := s.flags.erase (.lightOn id) } := ⟨rfl, rfl, rfl⟩
    obtain ⟨t, ht⟩ := relit_ok (hsame.placed hs).known hhere
    exact .of_ok (mapError_eq_ok.mpr ht)
  · exact .error fun cause heq => by cases heq
  · exact .error fun cause heq => by cases heq

end GameState

/-! ## Actions -/

/-- What an action is about is in the world, and what its interaction refers to exists. -/
structure Action.Grounded (w : World) (a : Action) : Prop where
  object : w.objects[a.object.id]? = some a.object
  target : ∀ target, a.target = some target → w.objects[target.id]? = some target
  entry : ∀ i, a.entry = some i → w.Supports i

namespace Action

variable {a : Action} {i : Interaction}

theorem Grounded.known (ha : a.Grounded w) : w.hasObject a.object.id = true :=
  World.hasObject_iff.mpr ⟨_, ha.object⟩

theorem faultFree_builtinState (ha : a.Grounded w) (hs : Placed w s)
    (hhere : w.hasScene s.currentScene = true) :
    FaultFree .world (a.builtinState w s) := by
  unfold builtinState
  split
  · exact .ofContainer (faultFree_changeLid ha.known fun name cause h => by grind)
  · exact .ofContainer (faultFree_changeLid ha.known fun name cause h => by grind)
  · exact .ofContainer (faultFree_changeLid ha.known fun name cause h => by grind)
  · exact .ofContainer (faultFree_changeLid ha.known fun name cause h => by grind)
  · exact .ofLight (faultFree_switchOn hs hhere ha.known)
  · exact .ofLight (faultFree_switchOff hs hhere ha.known)
  · exact .ok s

theorem faultFree_builtinMove (ha : a.Grounded w) (hs : WellPlaced w s)
    (hhere : w.hasScene s.currentScene = true) : FaultFree .world (a.builtinMove w s) := by
  unfold builtinMove
  split
  · exact .ofContainer (faultFree_pickUp hs ha.known)
  · exact .ofContainer (faultFree_putDown hs ha.known hhere)
  · split
    · rename_i target htarget
      refine .ite (fun hcont => ?_) fun _ => .error fun cause heq => by cases heq
      exact .ofContainer (faultFree_putDown hs ha.known ⟨target, ha.target target htarget, hcont⟩)
    · exact .ok s
  · exact .ok s

theorem faultFree_builtinPart (ha : a.Grounded w) (hs : WellPlaced w s)
    (hhere : w.hasScene s.currentScene = true) : FaultFree .world (a.builtinPart w s) := by
  unfold builtinPart
  refine .bind (faultFree_builtinState ha hs.toPlaced hhere) fun t ht => ?_
  have hdeed : Deed w s [] t := .of_onlyFlags (onlyFlags_builtinState ht)
  exact faultFree_builtinMove ha (hdeed.moved.wellPlaced hs) (hdeed.here hhere)

theorem faultFree_applyTransfers {transfers : List Authored.Transfer} (hs : WellPlaced w s)
    (h : ∀ t ∈ transfers, w.hasObject t.object = true ∧ w.HasPlace t.destination) :
    FaultFree .world (applyTransfers w s transfers) := by
  induction transfers generalizing s with
  | nil => exact .ok s
  | cons first rest ih =>
    obtain ⟨hobject, hplace⟩ := h first (List.mem_cons_self ..)
    have hrest := fun t ht => h t (List.mem_cons_of_mem first ht)
    have hfirst : FaultFree .world (s.transfer w first.object first.destination) :=
      faultFree_move hs hobject hplace
    unfold applyTransfers
    split
    · rename_i t ht
      exact ih (hs.move ht) hrest
    · exact ih hs hrest
    · rename_i e _ he
      exact .error fun cause heq => hfirst cause (heq ▸ he)

theorem reveal_ok {ids : List Id} (h : ∀ id ∈ ids, w.hasObject id = true) :
    ∃ t, reveal w s ids = .ok t := by
  induction ids generalizing s with
  | nil => exact ⟨s, rfl⟩
  | cons id rest ih =>
    obtain ⟨o, ho⟩ := World.hasObject_iff.mp (h id (List.mem_cons_self ..))
    unfold reveal
    rw [World.object_eq_ok.mpr ho]
    exact ih fun id hid => h id (List.mem_cons_of_mem _ hid)

theorem applyMarks_ok (h : ∀ id ∈ i.reveals, w.hasObject id = true) :
    ∃ out, a.applyMarks w s i = .ok out := by
  unfold applyMarks
  simp only [bind_eq_ok, pure_eq_ok]
  obtain ⟨t, ht⟩ := reveal_ok h
  exact ⟨_, t, ht, rfl⟩

theorem faultFree_leaveMarks (ha : a.Grounded w) : FaultFree .world (a.leaveMarks w s) := by
  unfold leaveMarks
  split
  · rename_i i hi
    obtain ⟨out, hout⟩ := applyMarks_ok (s := s) (a := a) (ha.entry i hi).reveals
    exact .of_ok (liftM_refusal_eq_ok.mpr hout)
  · exact .ok _

theorem faultFree_moveObjects (ha : a.Grounded w) (hs : WellPlaced w s)
    (hhere : w.hasScene s.currentScene = true) : FaultFree .world (a.moveObjects w s) := by
  unfold moveObjects
  refine .bind ?_ fun t ht => ?_
  · unfold moveByHand
    exact .ite (fun _ => faultFree_builtinMove ha hs hhere) fun _ => .ok s
  · obtain ⟨log, hdeed⟩ := deed_of_moveByHand ht
    unfold moveAsWritten
    split
    · rename_i i hi
      exact .ofContainer
        (faultFree_applyTransfers (hdeed.moved.wellPlaced hs) (ha.entry i hi).transfers)
    · exact .ok t

end Action

/-! ## Scenes -/

namespace GameState

/-- In a coherent world every scene can be entered. -/
theorem enterScene_ok (hw : w.Coherent) (hs : Placed w s) {scene : Id}
    (hscene : w.hasScene scene = true) : ∃ text, (s.enterScene w scene).1 = .ok text := by
  obtain ⟨sc, hsc⟩ := World.hasScene_iff.mp hscene
  obtain ⟨text, t, htext⟩ := enterScene_ok_of_held hs.known hsc (hw.exits scene sc hsc)
  exact ⟨text, by rw [htext]⟩

end GameState

namespace Action

variable {a : Action}

theorem faultFree_changeScene (hw : w.Coherent) (ha : a.Grounded w) (hs : Placed w s) :
    FaultFree .world (a.changeScene w s) := by
  unfold changeScene
  split
  · rename_i scene htarget
    obtain ⟨i, hi, hscene⟩ := Option.bind_eq_some_iff.mp htarget
    obtain ⟨text, htext⟩ := enterScene_ok hw hs ((ha.entry i hi).scene scene hscene)
    split
    · exact .ok _
    · rename_i cause t heq
      rw [heq] at htext
      cases htext
  · exact .ok _

/-- **The effects of a grounded action are free of faults.** -/
theorem faultFree_apply (hw : w.Coherent) (ha : a.Grounded w) (hs : WellPlaced w s)
    (hhere : w.hasScene s.currentScene = true) : FaultFree .world (a.apply w s) := by
  unfold apply
  -- stage by stage, with what the next one needs to know about the state it begins in
  refine .bind ?_ fun s₁ h₁ => ?_
  · unfold changeState
    exact .ite (fun _ => faultFree_builtinState ha hs.toPlaced hhere) fun _ => .ok s
  have hdeed₁ : Deed w s [] s₁ := .of_onlyFlags (onlyFlags_changeState h₁)
  refine .bind (faultFree_leaveMarks ha) fun ⟨s₂, trophies⟩ h₂ => ?_
  have hdeed₂ : Deed w s [] s₂ := hdeed₁.append (.of_onlyMarks (onlyMarks_leaveMarks h₂))
  have hs₂ := hdeed₂.moved.wellPlaced hs
  have hhere₂ := hdeed₂.here hhere
  refine .bind (faultFree_moveObjects ha hs₂ hhere₂) fun s₃ h₃ => ?_
  obtain ⟨log, hdeed₃⟩ := deed_of_moveObjects h₃
  have hs₃ := hdeed₃.moved.wellPlaced hs₂
  have hhere₃ := hdeed₃.here hhere₂
  obtain ⟨_, hlit⟩ := relit_ok hs₃.known hhere₃
  refine .bind (.of_ok (liftM_refusal_eq_ok.mpr hlit)) fun s₄ h₄ => ?_
  have hsame := (onlyFlags_relit (liftM_refusal_eq_ok.mp h₄)).onlyMarks.sameHolders
  exact .bind (faultFree_changeScene hw ha (hsame.placed hs₃.toPlaced)) fun _ _ => .ok _

end Action

end TextAdventure
