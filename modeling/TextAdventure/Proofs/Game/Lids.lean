import TextAdventure.Proofs.Game.Permission

/-!
# Closed lids

By hand one reaches neither out of a closed container nor into one. An operation on containers
looks at one lid only, that of the container which holds the object or is to hold it, and
`HandMove` says exactly when it goes through and when it is refused without a trace. No lid further
out occurs there: a coin is taken out of an open purse even when the purse lies in a closed chest
(`treasury_reached`). A refused operation puts the object back where it was. It cannot do so when
the old holder is no container of the world, and then the object is lost (`treasury_lost`).

What keeps the player out of the chest are the nouns. A command about objects looks each of them up
first, and one that stands for an object with a closed container around it, at any depth, stops
the command. So the nearest lid counts for a single operation, and every lid for a command
(`lids_respected`).
-/

namespace TextAdventure

open Std Relation GameState

namespace GameState

variable {w : World} {s : GameState} {item c : Id} {p : Place} {asked : Prop}
  {question : Except ContainerError Unit} {next a : Attempt} {reason : ContainerError}

/-! ## Refusals -/

/-- The attempt gives an error and leaves the state as it was. -/
structure Refused (s : GameState) (a : Attempt) : Prop where
  error : ∃ e, a.answer = .error e
  unchanged : a.state = s

/-- What is refused at once is refused, and otherwise it depends on what comes next. -/
theorem refused_whenAllowed_iff :
    s.Refused (s.whenAllowed question next) ↔ question ≠ .ok () ∨ s.Refused next := by
  cases question with
  | error e => exact iff_of_true ⟨⟨e, rfl⟩, rfl⟩ (.inl nofun)
  | ok _ => exact ⟨.inr, fun h => h.resolve_left fun hno => hno rfl⟩

theorem whenAllowed_ok : s.whenAllowed (.ok ()) next = next := rfl

theorem answer_whenAllowed_eq_ok_iff :
    (s.whenAllowed question next).answer = .ok () ↔ question = .ok () ∧ next.answer = .ok () := by
  cases question <;> simp [whenAllowed]

/-- An object that was taken out is put back when its place exists, and only then. -/
theorem refused_putBack_iff (hs : s.OneHolder) (hitem : w.hasObject item = true) :
    s.Refused ((s.unplace item).putBack w item (s.locationOf item) reason) ↔
      w.HasPlace (s.locationOf item) := by
  unfold putBack
  cases hback : (s.unplace item).place w item (s.locationOf item) with
  | ok t =>
    obtain ⟨-, hplace, rfl⟩ := place_eq_ok_iff.mp hback
    exact iff_of_true ⟨⟨reason, rfl⟩, added_unplace⟩ hplace
  | error cause =>
    have hno : ¬ w.HasPlace (s.locationOf item) := by
      intro hplace
      rw [place_eq_ok_iff.mpr ⟨hitem, hplace, rfl⟩] at hback
      cases hback
    refine iff_of_false (fun h => ?_) hno
    -- the object was held somewhere, and now nothing holds it
    have hheld : s.Holds (s.locationOf item) item :=
      holds_locationOf fun hnowhere => hno (hnowhere ▸ trivial)
    have hout : ¬ (s.unplace item).Holds (s.locationOf item) item := hs.not_holds_unplace
    have hsame : s.unplace item = s := h.unchanged
    rw [hsame] at hout
    exact hout hheld

/-! ## Moves by hand -/

/-- By hand the object can be taken from where it is to another place: it exists, it is not there
yet, and the container that holds it is open. -/
structure CanLeave (s : GameState) (w : World) (item : Id) (p : Place) : Prop where
  known : w.hasObject item = true
  elsewhere : s.locationOf item ≠ p
  lid : ∀ c, s.locationOf item = .container c → s.isOpen c = true

/-- By hand the object can be put into the place once it is out of its holder: the place exists, it
is not inside the object, it has room, and it is open if it is a container. -/
def CanArrive (s : GameState) (w : World) (item : Id) (p : Place) : Prop :=
  w.HasPlace p ∧ (s.unplace item).Takes w true item p

/-- The attempt asks a question of its own and then moves the object to the place by hand. -/
structure HandMove (s : GameState) (w : World) (item : Id) (asked : Prop) (p : Place)
    (a : Attempt) : Prop where
  done_iff : a.answer = .ok () ↔ asked ∧ s.CanLeave w item p ∧ s.CanArrive w item p
  refused_iff : s.Refused a ↔ ¬ asked ∨ ¬ s.CanLeave w item p ∨
    ¬ s.CanArrive w item p ∧ w.HasPlace (s.locationOf item)

theorem askSource_eq_ok_iff_canLeave :
    s.askSource w true item p = .ok () ↔ s.CanLeave w item p := by
  rw [askSource_eq_ok_iff]
  constructor
  · rintro ⟨hknown, helsewhere, hlid⟩
    exact ⟨hknown, helsewhere, fun c hc => hlid c hc rfl⟩
  · rintro ⟨hknown, helsewhere, hlid⟩
    exact ⟨hknown, helsewhere, fun c hc _ => hlid c hc⟩

theorem accept_unplace_iff (hitem : w.hasObject item = true) :
    (∃ t, (s.unplace item).accept w true item p = .ok t) ↔ s.CanArrive w item p := by
  simp only [accept_eq_ok_iff]
  constructor
  · rintro ⟨t, htakes, -, hplace, -⟩
    exact ⟨hplace, htakes⟩
  · rintro ⟨hplace, htakes⟩
    exact ⟨_, htakes, hitem, hplace, rfl⟩

theorem handMove_done {t : GameState} (hleaves : s.CanLeave w item p)
    (harrives : s.CanArrive w item p) : s.HandMove w item True p ⟨.ok (), t⟩ where
  done_iff := iff_of_true rfl ⟨trivial, hleaves, harrives⟩
  refused_iff := by
    refine iff_of_false (fun h => ?_) (by simp [hleaves, harrives])
    obtain ⟨e, he⟩ := h.error
    cases he

theorem handMove_putBack (hs : s.OneHolder) (hleaves : s.CanLeave w item p)
    (hnot : ¬ s.CanArrive w item p) : s.HandMove w item True p
      ((s.unplace item).putBack w item (s.locationOf item) reason) where
  done_iff := by
    refine iff_of_false (fun h => ?_) fun h => hnot h.2.2
    obtain ⟨e, he⟩ : ∃ e, ((s.unplace item).putBack w item (s.locationOf item) reason).result
      = .error e := result_putBack
    rw [result_eq_ok_iff.mpr ⟨h, rfl⟩] at he
    cases he
  refused_iff := by
    rw [refused_putBack_iff hs hleaves.known]
    simp [hleaves, hnot]

theorem handMove_stopped (hstays : ¬ s.CanLeave w item p) (hask : question ≠ .ok ()) :
    s.HandMove w item True p (s.whenAllowed question next) where
  done_iff := by
    rw [answer_whenAllowed_eq_ok_iff]
    exact iff_of_false (fun h => hask h.1) fun h => hstays h.2.1
  refused_iff := by
    rw [refused_whenAllowed_iff]
    exact iff_of_true (.inl hask) (.inr (.inl hstays))

/-- **A move by hand** looks at the lid of the container that holds the object and at that of the
container that is to hold it, and at no other. -/
theorem handMove_tryMove (hs : s.OneHolder) :
    s.HandMove w item True p (s.tryMove w true item p) := by
  unfold tryMove
  by_cases hleaves : s.CanLeave w item p
  · rw [askSource_eq_ok_iff_canLeave.mpr hleaves, whenAllowed_ok]
    have harrives := accept_unplace_iff (s := s) (p := p) hleaves.known
    cases haccept : (s.unplace item).accept w true item p with
    | ok t => exact handMove_done hleaves (harrives.mp ⟨t, haccept⟩)
    | error reason =>
      refine handMove_putBack hs hleaves fun hthere => ?_
      obtain ⟨t, ht⟩ := harrives.mpr hthere
      rw [haccept] at ht
      cases ht
  · exact handMove_stopped hleaves (askSource_eq_ok_iff_canLeave.not.mpr hleaves)

/-- A question that comes before everything else. -/
theorem HandMove.whenAllowed (h : s.HandMove w item True p a)
    (hquestion : question = .ok () ↔ asked) :
    s.HandMove w item asked p (s.whenAllowed question a) where
  done_iff := by
    rw [answer_whenAllowed_eq_ok_iff, hquestion, h.done_iff, true_and]
  refused_iff := by
    rw [refused_whenAllowed_iff, ne_eq, hquestion, h.refused_iff, not_true, false_or]

theorem askPickUp_eq_ok_iff : s.askPickUp w item = .ok () ↔
    (∃ o, w.objects[item]? = some o ∧ o.takeable = true) ∧ s.carries item = false := by
  unfold askPickUp
  simp only [bind_eq_ok, liftM_containerError, mapError_eq_ok, World.object_eq_ok]
  constructor
  · rintro ⟨o, ho, h⟩
    cases htakeable : o.takeable <;> cases hcarried : s.carries item <;>
      simp [htakeable, hcarried] at h
    exact ⟨⟨o, ho, htakeable⟩, rfl⟩
  · rintro ⟨⟨o, ho, htakeable⟩, hcarried⟩
    refine ⟨o, ho, ?_⟩
    simp [htakeable, hcarried]

theorem askPutDown_eq_ok_iff :
    s.askPutDown w item = .ok () ↔ s.carries item = true := by
  unfold askPutDown
  cases s.carries item with
  | true => exact iff_of_true rfl rfl
  | false => cases hname : w.nameOf item <;> simp

/-- What is taken out of a container by hand is in it, and the container is open. -/
theorem askRemoval_eq_ok_iff : s.askRemoval w c item = .ok () ↔
    w.HasPlace (.container c) ∧ s.locationOf item = .container c ∧ s.isOpen c = true := by
  have hcontainer : w.HasPlace (.container c) ↔ ∃ spec, w.containerSpec c = .ok spec := by
    simp only [World.containerSpec_eq_ok, World.HasPlace, Object.isContainer,
      Option.isSome_iff_exists]
    constructor
    · rintro ⟨o, ho, spec, hspec⟩
      exact ⟨spec, o, ho, hspec⟩
    · rintro ⟨spec, o, ho, hspec⟩
      exact ⟨o, ho, spec, hspec⟩
  unfold askRemoval
  rw [hcontainer, bind_eq_ok]
  simp only [discard_eq_ok]
  by_cases hin : s.locationOf item = .container c
  · cases hopen : s.isOpen c with
    | true => simp [lidError, hin, hopen]
    | false => cases w.nameOf c <;> simp [lidError, hin, hopen]
  · cases w.nameOf item <;> cases w.nameOf c <;> simp [hin]

/-- Picking up is asked of an object that can be taken and is not carried. -/
theorem handMove_tryPickUp (hs : s.OneHolder) :
    s.HandMove w item
      ((∃ o, w.objects[item]? = some o ∧ o.takeable = true) ∧ s.carries item = false)
      .inventory (s.tryPickUp w item) :=
  (handMove_tryMove hs).whenAllowed askPickUp_eq_ok_iff

theorem handMove_tryPutDown (hs : s.OneHolder) :
    s.HandMove w item (s.carries item = true) p (s.tryPutDown w item p) :=
  (handMove_tryMove hs).whenAllowed askPutDown_eq_ok_iff

theorem tryRemoveItem_iff :
    ((s.tryRemoveItem w c item).answer = .ok () ↔
        w.HasPlace (.container c) ∧ s.locationOf item = .container c ∧ s.isOpen c = true) ∧
      (s.Refused (s.tryRemoveItem w c item) ↔ (s.tryRemoveItem w c item).answer ≠ .ok ()) := by
  have hanswer : (s.tryRemoveItem w c item).answer = .ok () ↔ s.askRemoval w c item = .ok () := by
    unfold tryRemoveItem
    rw [answer_whenAllowed_eq_ok_iff, and_iff_left rfl]
  have hdone : ¬ s.Refused ⟨.ok (), s.unplace item⟩ := by
    rintro ⟨⟨e, he⟩, -⟩
    cases he
  refine ⟨hanswer.trans askRemoval_eq_ok_iff, ?_⟩
  rw [ne_eq, hanswer]
  unfold tryRemoveItem
  rw [refused_whenAllowed_iff, or_iff_left hdone]

/-! ## The nearest lids -/

/-- By hand nothing leaves a closed container. -/
theorem HandMove.refused_out (h : s.HandMove w item asked p a)
    (hin : s.locationOf item = .container c) (hclosed : s.isOpen c = false) : s.Refused a := by
  refine h.refused_iff.mpr (.inr (.inl fun hleaves => ?_))
  rw [hleaves.lid c hin] at hclosed
  cases hclosed

/-- By hand nothing gets into a closed container. -/
theorem not_canArrive_of_closed (hclosed : s.isOpen c = false) :
    ¬ s.CanArrive w item (.container c) := by
  rintro ⟨-, htakes⟩
  -- the container is asked when the item has been taken out already, under the same flags
  have hopen : (s.unplace item).isOpen c = true := htakes.lid c rfl rfl
  unfold isOpen at hopen hclosed
  rw [sameBesides_unplace.flags, hclosed] at hopen
  cases hopen

theorem HandMove.error_of_not_canArrive (h : s.HandMove w item asked p a)
    (hnot : ¬ s.CanArrive w item p) : ∃ e, a.answer = .error e := by
  cases hanswer : a.answer with
  | ok _ => exact (hnot (h.done_iff.mp hanswer).2.2).elim
  | error e => exact ⟨e, rfl⟩

/-- What is carried can always be taken back into the hands. -/
theorem refused_tryPutDown (hs : s.OneHolder) (hnot : ¬ s.CanArrive w item p) :
    s.Refused (s.tryPutDown w item p) := by
  refine (handMove_tryPutDown hs).refused_iff.mpr ?_
  by_cases hcarried : s.carries item = true
  · have hhands : s.locationOf item = .inventory := by simp [locationOf, hcarried]
    exact .inr (.inr ⟨hnot, hhands ▸ trivial⟩)
  · exact .inl hcarried

end GameState

/-! ## Commands -/

/-- The nouns of a command about objects: what it is done to, and what it is done with. -/
def Command.nouns (command : Command) : List String :=
  match Command.noun? command.object with
  | some noun => noun :: (Command.noun? command.target).toList
  | none => []

namespace GameState

variable {w : World} {s : GameState} {messages : Messages} {command : Command} {a : Action}
  {noun : String} {item c : Id}

/-- Whatever a planned command names can be reached: every container around it is open. -/
theorem open_of_planned (hs : s.OneHolder) (h : Planned w messages s command a)
    (hnoun : noun ∈ command.nouns) (hfound : s.findPresent w noun = .ok (some item))
    (haround : TransGen s.Inside item c) : s.isOpen c = true := by
  obtain ⟨o, hlocated⟩ : ∃ o, s.locate w messages noun = .ok (.object o) := by
    obtain ⟨first, hfirst, hlocated⟩ := h.object
    unfold Command.nouns at hnoun
    rw [hfirst] at hnoun
    rcases List.mem_cons.mp hnoun with rfl | htarget
    · exact ⟨_, hlocated⟩
    · obtain ⟨o, -, hlocated⟩ := h.target noun (Option.mem_toList.mp htarget)
      exact ⟨o, hlocated⟩
  obtain ⟨id, lit, hid, -, -, -, hopen⟩ := locate_eq_object hlocated
  rw [hfound] at hid
  obtain rfl := Option.some.inj (Except.ok.inj hid)
  exact hopen c ((mem_enclosing_iff hs).mpr haround)

/-- A command that is not planned changes nothing and is not carried out. -/
theorem act_of_not_planned (h : ∀ a, ¬ Planned w messages s command a) :
    (s.act w messages command).2 = s ∧
      ∀ r, (s.act w messages command).1 = .ok r → ∃ message, r = .refused message := by
  unfold act
  split
  · exact ⟨rfl, fun r hr => by cases hr⟩
  · exact ⟨rfl, fun r hr => ⟨_, (Except.ok.inj hr).symm⟩⟩
  · rename_i a hplan
    exact (h a (planned_of_plan hplan)).elim

/-- No time passes after a refusal or a fault. -/
theorem endTurn_of_not_done {settings : Settings} {out : Except WorldError Response × GameState}
    (h : ∀ r, out.1 = .ok r → ∃ message, r = .refused message) : endTurn w settings out = out := by
  obtain ⟨answer, t⟩ := out
  cases answer with
  | error cause => rfl
  | ok r =>
    obtain ⟨message, rfl⟩ := h r rfl
    rfl

/-- **A command that names something behind a closed lid** changes nothing and is not carried
out. -/
theorem execute_behind_lid (hs : s.OneHolder) (settings : Settings) (hgoes : command.goes = false)
    (hnoun : noun ∈ command.nouns) (hfound : s.findPresent w noun = .ok (some item))
    (haround : TransGen s.Inside item c) (hclosed : s.isOpen c = false) :
    (s.execute w settings command).2 = s ∧
      ∀ r, (s.execute w settings command).1 = .ok r → ∃ message, r = .refused message := by
  have hnot : ∀ a, ¬ Planned w settings.messages s command a := by
    intro a ha
    have hopen := open_of_planned hs ha hnoun hfound haround
    rw [hclosed] at hopen
    cases hopen
  obtain ⟨first, hfirst⟩ : ∃ first, Command.noun? command.object = some first := by
    unfold Command.nouns at hnoun
    split at hnoun
    · exact ⟨_, ‹_›⟩
    · exact (List.not_mem_nil hnoun).elim
  have hperform : s.perform w settings command = s.act w settings.messages command := by
    rw [perform_of_noun hfirst, hgoes]
    rfl
  obtain ⟨hsame, hrefused⟩ := act_of_not_planned hnot
  unfold execute
  rw [hperform, endTurn_of_not_done hrefused]
  exact ⟨hsame, hrefused⟩

end GameState

/-! ## A purse in a chest -/

/-- A vault with a closed chest; in the chest lies an open purse with a coin. The player has a
token and an open bag. -/
def treasury : Authored.World where
  game := { title := "Treasury", startScene := "vault" }
  scenes := [{ id := "vault", name := "Vault", lit := true, desc := { text := "A vault." } }]
  objects := [
    { id := "chest", name := "chest", desc := { text := "A chest." }, location := .scene "vault",
      container := some { capacity := 9 } },
    { id := "purse", name := "purse", desc := { text := "A purse." },
      location := .container "chest", takeable := true,
      container := some { capacity := 5, isOpen := true } },
    { id := "coin", name := "coin", desc := { text := "A coin." },
      location := .container "purse", takeable := true },
    { id := "token", name := "token", desc := { text := "A token." }, location := .inventory,
      takeable := true },
    { id := "bag", name := "bag", desc := { text := "A bag." }, location := .inventory,
      takeable := true, container := some { capacity := 5, isOpen := true } }]

namespace Game

variable {g : Game}

/-- Taking the coin. -/
def takeCoin : Command := { verb := "take", object := some "coin" }

/-- The coin is behind the lid of the chest, and the purse lies directly in it. -/
def lidded (g : Game) : Bool :=
  decide ("chest" ∈ g.state.enclosing "coin") &&
    decide (g.state.locationOf "purse" = .container "chest") && !g.state.isOpen "chest"

theorem closed_of_lidded (h : g.lidded = true) : TransGen g.state.Inside "coin" "chest" ∧
    g.state.Inside "purse" "chest" ∧ g.state.isOpen "chest" = false := by
  unfold lidded at h
  simp only [Bool.and_eq_true, Bool.not_eq_true', decide_eq_true_iff] at h
  obtain ⟨⟨hcoin, hpurse⟩, hclosed⟩ := h
  exact ⟨transGen_of_mem_enclosingFrom hcoin, inside_of_locationOf hpurse, hclosed⟩

/-- **Closed lids.** By hand an object is moved exactly when what is asked first is so, it can leave
its holder, and it can arrive where it is to go. The attempt is refused and leaves the state as it
was exactly when one of these fails, the last one only if the holder that gets the object back
exists. Here the only lids are those of the container that holds the object and of the one that is
to hold it, so these two are respected. Lids further out are respected by commands: one about
objects that names something with a container around it, at any depth, that is not open is not
carried out and changes nothing. -/
theorem lids_respected {s : GameState} (hs : s.OneHolder) (w : World) :
    (∀ item,
      s.HandMove w item
        ((∃ o, w.objects[item]? = some o ∧ o.takeable = true) ∧ s.carries item = false)
        .inventory (s.tryPickUp w item) ∧
      (∀ c, s.HandMove w item True (.container c) (s.tryAddItem w c item)) ∧
      (∀ p, s.HandMove w item (s.carries item = true) p (s.tryPutDown w item p)) ∧
      ∀ c, ((s.tryRemoveItem w c item).answer = .ok () ↔ w.HasPlace (.container c) ∧
          s.locationOf item = .container c ∧ s.isOpen c = true) ∧
        (s.Refused (s.tryRemoveItem w c item) ↔ (s.tryRemoveItem w c item).answer ≠ .ok ())) ∧
    (∀ item c, s.Inside item c → s.isOpen c = false → s.Refused (s.tryPickUp w item) ∧
      ∀ d, s.Refused (s.tryRemoveItem w d item) ∧ s.Refused (s.tryAddItem w d item)) ∧
    (∀ item c, s.isOpen c = false → s.Refused (s.tryPutDown w item (.container c)) ∧
      (∃ e, (s.tryAddItem w c item).answer = .error e) ∧
      (w.HasPlace (s.locationOf item) → s.Refused (s.tryAddItem w c item))) ∧
    ∀ (settings : Settings) (command : Command) noun item c, command.goes = false →
      noun ∈ command.nouns → s.findPresent w noun = .ok (some item) →
      TransGen s.Inside item c → s.isOpen c = false →
      (s.execute w settings command).2 = s ∧
        ∀ r, (s.execute w settings command).1 = .ok r → ∃ message, r = .refused message := by
  have hadd : ∀ item c, s.HandMove w item True (.container c) (s.tryAddItem w c item) :=
    fun item c => handMove_tryMove hs
  refine ⟨fun item => ⟨handMove_tryPickUp hs, hadd item, fun p => handMove_tryPutDown hs,
    fun c => tryRemoveItem_iff⟩, fun item c hin hclosed => ?_, fun item c hclosed => ?_, ?_⟩
  · have hloc : s.locationOf item = .container c := hs.locationOf_eq hin
    refine ⟨(handMove_tryPickUp hs).refused_out hloc hclosed, fun d => ⟨?_, ?_⟩⟩
    · refine tryRemoveItem_iff.2.mpr fun hdone => ?_
      obtain ⟨-, hthere, hopen⟩ := tryRemoveItem_iff.1.mp hdone
      obtain rfl : c = d := Place.container.inj (hloc.symm.trans hthere)
      rw [hclosed] at hopen
      cases hopen
    · exact (hadd item d).refused_out hloc hclosed
  · have hnot : ¬ s.CanArrive w item (.container c) := not_canArrive_of_closed hclosed
    exact ⟨refused_tryPutDown hs hnot, (hadd item c).error_of_not_canArrive hnot,
      fun hplace => (hadd item c).refused_iff.mpr (.inr (.inr ⟨hnot, hplace⟩))⟩
  · intro settings command noun item c hgoes hnoun hfound haround hclosed
    exact execute_behind_lid hs settings hgoes hnoun hfound haround hclosed

/-- In the treasury the purse cannot be taken out of the closed chest and nothing can be put in,
and the command to take the coin out of the purse is refused. -/
theorem treasury_guarded : ∃ w g, World.compile treasury = .ok w ∧ Game.new w {} = .ok g ∧
    g.state.Refused (g.state.tryPickUp g.world "purse") ∧
    g.state.Refused (g.state.tryAddItem g.world "chest" "token") ∧
    (g.state.execute g.world {} takeCoin).2 = g.state := by
  have hcheck : begun treasury (fun g => g.lidded &&
      decide ((g.state.findPresent g.world "coin").toOption = some (some "coin"))) = true := by
    decide +kernel
  obtain ⟨w, g, hw, hg, hstate⟩ := exists_of_begun hcheck
  rw [Bool.and_eq_true, decide_eq_true_iff, toOption_eq_some] at hstate
  obtain ⟨hlidded, hfound⟩ := hstate
  obtain ⟨haround, hpurse, hclosed⟩ := closed_of_lidded hlidded
  have hplaced := (settled_new hg).placed
  obtain ⟨-, hout, hinto, hcommand⟩ := lids_respected hplaced.single g.world
  have hgoes : takeCoin.goes = false := by decide +kernel
  have hnoun : "coin" ∈ takeCoin.nouns := by decide +kernel
  exact ⟨w, g, hw, hg, (hout _ _ hpurse hclosed).1,
    (hinto _ _ hclosed).2.2 (hplaced.hasPlace_locationOf _),
    (hcommand {} takeCoin "coin" "coin" "chest" hgoes hnoun hfound haround hclosed).1⟩

/-- A single operation sees the nearest lid only. In the treasury, in a state with one holder for
every object and nothing inside itself, the coin is in the closed chest, and so is the purse around
it. Yet the coin can be taken into the hands, out of the purse and into the bag, and the token can
be put into the purse. -/
theorem treasury_reached : ∃ w g, World.compile treasury = .ok w ∧ Game.new w {} = .ok g ∧
    g.state.OneHolder ∧ g.state.Acyclic ∧ TransGen g.state.Inside "coin" "chest" ∧
    TransGen g.state.Inside "purse" "chest" ∧ g.state.isOpen "chest" = false ∧
    (∃ t, g.state.pickUp g.world "coin" = .ok t) ∧
    (∃ t, g.state.removeItem g.world "purse" "coin" = .ok t) ∧
    (∃ t, g.state.addItem g.world "bag" "coin" = .ok t) ∧
    (∃ t, g.state.addItem g.world "purse" "token" = .ok t) ∧
    ∃ t, g.state.putDown g.world "token" (.container "purse") = .ok t := by
  have hcheck : begun treasury (fun g => g.lidded &&
      ([g.state.pickUp g.world "coin", g.state.removeItem g.world "purse" "coin",
        g.state.addItem g.world "bag" "coin", g.state.addItem g.world "purse" "token",
        g.state.putDown g.world "token" (.container "purse")].all (·.isOk))) = true := by
    decide +kernel
  obtain ⟨w, g, hw, hg, hstate⟩ := exists_of_begun hcheck
  rw [Bool.and_eq_true, List.all_eq_true] at hstate
  obtain ⟨hlidded, hdone⟩ := hstate
  obtain ⟨haround, hpurse, hclosed⟩ := closed_of_lidded hlidded
  have hplaced : WellPlaced g.world g.state := (reached (World.coherent_of_compile hw) hg []).2.1
  have hok : ∀ {outcome : Except ContainerError GameState}, outcome.isOk = true →
      ∃ t, outcome = .ok t := isOk_iff.mp
  refine ⟨w, g, hw, hg, hplaced.single, hplaced.acyclic, haround, .single hpurse, hclosed,
    hok (hdone _ ?_), hok (hdone _ ?_), hok (hdone _ ?_), hok (hdone _ ?_), hok (hdone _ ?_)⟩
  all_goals simp

/-- A state in which the token is held by something open that is no part of the treasury. -/
def adrift : GameState :=
  { GameState.blank "vault" with
    flags := FlagSet.empty.insert (.objectOpen "pit")
    containers := .ofList [("pit", ExtTreeSet.ofList ["token"])] }

/-- In the treasury, a token that is held by nothing there is lost when it is refused by the closed
chest, since nothing can take it back. -/
theorem treasury_lost : ∃ w g, World.compile treasury = .ok w ∧ Game.new w {} = .ok g ∧
    adrift.OneHolder ∧ adrift.Acyclic ∧ adrift.locationOf "token" = .container "pit" ∧
    adrift.isOpen "chest" = false ∧
    (adrift.tryAddItem g.world "chest" "token").answer.isOk = false ∧
    (adrift.tryAddItem g.world "chest" "token").state.locationOf "token" = .nowhere := by
  have hcheck : begun treasury (fun g =>
      !(adrift.tryAddItem g.world "chest" "token").answer.isOk &&
      decide ((adrift.tryAddItem g.world "chest" "token").state.locationOf "token" = .nowhere))
        = true := by
    decide +kernel
  obtain ⟨w, g, hw, hg, hstate⟩ := exists_of_begun hcheck
  rw [Bool.and_eq_true, Bool.not_eq_true', decide_eq_true_iff] at hstate
  have hsingle : adrift.OneHolder := by
    have hok : adrift.checkSinglePlacement.isOk = true := by decide +kernel
    obtain ⟨⟨⟩, hpassed⟩ := isOk_iff.mp hok
    exact checkSinglePlacement_eq_ok_iff.mp hpassed
  have houtside : ∀ o ∈ adrift.containers.keys, o ∉ adrift.enclosing o := by decide +kernel
  refine ⟨w, g, hw, hg, hsingle, fun o hcycle => ?_, by decide +kernel, by decide +kernel, hstate⟩
  obtain ⟨x, -, hx⟩ := TransGen.tail'_iff.mp hcycle
  exact houtside o (ExtTreeMap.mem_keys.mpr (mem_containers_of_inside hx))
    ((mem_enclosing_iff hsingle).mpr hcycle)

end Game

end TextAdventure
