import TextAdventure.Proofs.Game.Light
import TextAdventure.Proofs.Play.Permission

/-!
# What a noun stands for

Several objects may have one name, and some of them may be out of sight. The search for a name goes
through what is present in order and takes the first object that is seen, and if none is, the first
at all (`findPresent_finds`). Whether an object can be acted on is asked once more afterwards, in
other words: by the light, by the lids around it, and by whether it shows.

* **nouns** — wherever a game has got to, both agree: a noun stands for the first object of its
  name that is seen, whatever has the name besides, and it is accepted exactly when there is such
  an object (`no_namesake_masks`).
-/

namespace TextAdventure

open Std Relation GameState

variable {w : World} {s : GameState} {messages : Messages} {noun : String} {id : Id} {o : Object}
  {lit : Bool}

/-! ## Names and sight -/

/-- The object with this id has the name. -/
def World.Names (w : World) (noun : String) (id : Id) : Prop :=
  ∃ o, w.objects[id]? = some o ∧ o.isNamed noun = true

namespace GameState

/-- The object is seen in the light there is: it needs no light or has some, it is carried, shows
or has been revealed, and every container around it is open. -/
structure Sees (s : GameState) (w : World) (id : Id) (o : Object) : Prop where
  light : o.requiresLight = true → s.hasLight w = .ok true
  shown : s.carries id = true ∨ o.visibleOnEntry = true ∨
    s.flags.has (.objectRevealed id) = true
  reached : ∀ c, TransGen s.Inside id c → s.isOpen c = true

/-- The object with this id has the name and is seen. -/
def NamesSeen (s : GameState) (w : World) (noun : String) (id : Id) : Prop :=
  ∃ o, w.objects[id]? = some o ∧ o.isNamed noun = true ∧ s.Sees w id o

/-- Of the ids in the list this is the first one with the property. -/
def First (P : Id → Prop) (ids : List Id) (id : Id) : Prop :=
  ∃ before after, ids = before ++ id :: after ∧ P id ∧ ∀ x ∈ before, ¬P x

/-- What a noun stands for among what is present: the first object of the name that is seen; if
none is seen, the first of the name; and nothing if there is none. -/
inductive Finds (w : World) (s : GameState) (noun : String) : Option Id → Prop where
  | seen {id : Id} (first : First (s.NamesSeen w noun) s.present id) : Finds w s noun (some id)
  | unseen {id : Id} (hidden : ∀ x ∈ s.present, ¬s.NamesSeen w noun x)
      (first : First (w.Names noun) s.present id) : Finds w s noun (some id)
  | nothing (absent : ∀ x ∈ s.present, ¬w.Names noun x) : Finds w s noun none

theorem First.mem {P : Id → Prop} {ids : List Id} (h : First P ids id) : id ∈ ids ∧ P id := by
  obtain ⟨before, after, rfl, hid, -⟩ := h
  exact ⟨by simp, hid⟩

/-- The search of a list finds the first element with a property. -/
theorem first_of_find? {P : Id → Prop} {test : Id → Bool} (htest : ∀ x, test x = true ↔ P x)
    {ids : List Id} (h : ids.find? test = some id) : First P ids id := by
  obtain ⟨hid, before, after, heq, hbefore⟩ := List.find?_eq_some_iff_append.mp h
  refine ⟨before, after, heq, (htest id).mp hid, fun x hx hP => ?_⟩
  simpa [(htest x).mpr hP] using hbefore x hx

theorem none_of_find? {P : Id → Prop} {test : Id → Bool} (htest : ∀ x, test x = true ↔ P x)
    {ids : List Id} (h : ids.find? test = none) : ∀ x ∈ ids, ¬P x :=
  fun x hx hP => List.find?_eq_none.mp h x hx ((htest x).mpr hP)

/-- The check of sight finds out whether an object is seen. -/
theorem isVisibleIn_eq_ok_true_iff (hs : s.OneHolder) (ho : w.objects[id]? = some o)
    (hlit : s.hasLight w = .ok lit) : s.isVisibleIn w lit id = .ok true ↔ s.Sees w id o := by
  have hlight : (o.requiresLight = true → lit = true) ↔
      (o.requiresLight = true → s.hasLight w = .ok true) := by
    rw [hlit, Except.ok.injEq]
  have hreached : (s.closedAround id).isNone = true ↔
      ∀ c, TransGen s.Inside id c → s.isOpen c = true := by
    rw [Option.isNone_iff_eq_none, closedAround_eq_none_iff]
    simp only [mem_enclosing_iff hs]
  constructor
  · intro h
    obtain ⟨hneeds, hshown⟩ := isVisibleIn_eq_ok_true ho h
    refine ⟨hlight.mp hneeds, hshown, hreached.mp ?_⟩
    unfold isVisibleIn at h
    simp only [World.object_eq_ok.mpr ho, ok_bind, pure_eq_ok, Bool.and_eq_true] at h
    exact h.2
  · rintro ⟨hneeds, hshown, hopen⟩
    unfold isVisibleIn
    simp only [World.object_eq_ok.mpr ho, ok_bind, pure_eq_ok, Bool.and_eq_true, Bool.or_eq_true,
      or_assoc]
    refine ⟨⟨?_, hshown⟩, hreached.mpr hopen⟩
    have hneeds := hlight.mpr hneeds
    cases hrequires : o.requiresLight with
    | true => exact .inr (hneeds hrequires)
    | false => exact .inl rfl

/-! ## The search -/

theorem namedIn_iff : namedIn w noun id = true ↔ w.Names noun id := Option.any_eq_true ..

theorem seenIn_iff_sees (hs : s.OneHolder) (hlit : s.hasLight w = .ok lit) :
    (namedIn w noun id && s.seenIn w lit id) = true ↔ s.NamesSeen w noun id := by
  rw [Bool.and_eq_true, namedIn_iff, seenIn_iff]
  constructor
  · rintro ⟨⟨o, ho, hname⟩, hvisible⟩
    exact ⟨o, ho, hname, (isVisibleIn_eq_ok_true_iff hs ho hlit).mp hvisible⟩
  · rintro ⟨o, ho, hname, hsees⟩
    exact ⟨⟨o, ho, hname⟩, (isVisibleIn_eq_ok_true_iff hs ho hlit).mpr hsees⟩

/-- **The search for a name** among what is present finds what the name stands for. -/
theorem findPresent_finds (hs : Placed w s) (hhere : w.hasScene s.currentScene = true)
    (noun : String) : ∃ found, s.findPresent w noun = .ok found ∧ Finds w s noun found := by
  obtain ⟨lit, hlit⟩ := hasLight_ok hs.known hhere
  refine ⟨_, findPresent_eq hs hlit noun, ?_⟩
  cases hfirst : s.present.find? fun x => namedIn w noun x && s.seenIn w lit x with
  | some id => exact .seen (first_of_find? (fun _ => seenIn_iff_sees hs.single hlit) hfirst)
  | none =>
    have hhidden := none_of_find? (fun _ => seenIn_iff_sees hs.single hlit) hfirst
    rw [Option.none_or]
    cases hany : s.present.find? (namedIn w noun) with
    | some id => exact .unseen hhidden (first_of_find? (fun _ => namedIn_iff) hany)
    | none => exact .nothing (none_of_find? (fun _ => namedIn_iff) hany)

/-! ## Looking a noun up -/

/-- A noun is accepted when it is found to stand for an object that is seen. -/
theorem locate_of_sees (hs : Placed w s) (hhere : w.hasScene s.currentScene = true)
    (hfound : s.findPresent w noun = .ok (some id)) (ho : w.objects[id]? = some o)
    (hsees : s.Sees w id o) : s.locate w messages noun = .ok (.object o) := by
  obtain ⟨lit, hlit⟩ := hasLight_ok hs.known hhere
  have hvisible := (isVisibleIn_eq_ok_true_iff hs.single ho hlit).mpr hsees
  have hlight : ¬(o.requiresLight && !lit) = true := by
    intro hdark
    rw [Bool.and_eq_true, Bool.not_eq_true'] at hdark
    obtain ⟨hneeds, hunlit⟩ := hdark
    have hlight := hsees.light hneeds
    rw [hlit, hunlit] at hlight
    cases hlight
  have hopen : s.closedAround id = none := by
    rw [closedAround_eq_none_iff]
    exact fun c hc => hsees.reached c ((mem_enclosing_iff hs.single).mp hc)
  unfold locate
  simp only [hfound, ok_bind, World.object_eq_ok.mpr ho, hlit, if_neg hlight, hopen, hvisible]
  rfl

/-- A noun that is accepted stands for an object that is found for it and is seen. -/
theorem seen_of_locate (hs : Placed w s) (h : s.locate w messages noun = .ok (.object o)) :
    ∃ id, s.findPresent w noun = .ok (some id) ∧ w.objects[id]? = some o ∧
      s.NamesSeen w noun id := by
  obtain ⟨id, lit, hfound, ho, hlit, hvisible, -⟩ := locate_eq_object h
  obtain ⟨-, o', ho', hname⟩ := findPresent_eq_some hfound
  obtain rfl : o' = o := Option.some.inj (ho'.symm.trans ho)
  exact ⟨id, hfound, ho, o', ho, hname, (isVisibleIn_eq_ok_true_iff hs.single ho hlit).mp hvisible⟩

/-- **A noun is looked up**: it is accepted exactly when something of its name that is present is
seen. -/
theorem locate_object_iff (hs : Placed w s) (hhere : w.hasScene s.currentScene = true)
    (messages : Messages) (noun : String) :
    (∃ o, s.locate w messages noun = .ok (.object o)) ↔
      ∃ id, s.isPresent id = true ∧ s.NamesSeen w noun id := by
  simp only [← mem_present_iff hs.single]
  constructor
  · rintro ⟨o, h⟩
    obtain ⟨id, hfound, -, hseen⟩ := seen_of_locate hs h
    exact ⟨id, (findPresent_eq_some hfound).1, hseen⟩
  · rintro ⟨id, hid, hseen⟩
    obtain ⟨found, hfound, hfinds⟩ := findPresent_finds hs hhere noun
    cases hfinds with
    | seen first =>
      obtain ⟨-, o, ho, -, hsees⟩ := first.mem
      exact ⟨o, locate_of_sees hs hhere hfound ho hsees⟩
    | unseen hidden => exact absurd hseen (hidden id hid)
    | nothing absent =>
      obtain ⟨o, ho, hname, -⟩ := hseen
      exact absurd ⟨o, ho, hname⟩ (absent id hid)

/-- A noun that is not accepted is refused. -/
theorem locate_refused_iff (hs : Placed w s) (hhere : w.hasScene s.currentScene = true)
    (messages : Messages) (noun : String) :
    (∃ message, s.locate w messages noun = .ok (.refused message)) ↔
      ¬∃ id, s.isPresent id = true ∧ s.NamesSeen w noun id := by
  rw [← locate_object_iff hs hhere messages noun]
  obtain ⟨located, hlocated, -⟩ := locate_ok hs hhere messages noun
  cases located <;> simp [hlocated]

end GameState

/-! ## In a game -/

/-- A pantry with a white candle, and a tin with a red one in the player's hands. -/
def pantry : Authored.World where
  game := { title := "Pantry", startScene := "pantry" }
  scenes := [{ id := "pantry", name := "Pantry", lit := true, desc := { text := "A pantry." } }]
  objects := [
    { id := "tin", name := "tin", desc := { text := "A tin." }, location := .inventory,
      takeable := true, container := some { capacity := 5 } },
    { id := "red", name := "red candle", desc := { text := "A red candle." },
      location := .container "tin", takeable := true },
    { id := "white", name := "white candle", desc := { text := "A white candle." },
      location := .scene "pantry", takeable := true }]

namespace Game

variable {settings : Settings} {g : Game}

/-- **No namesake masks another.** In any world in which a game can begin, after any calls, the
search for a noun goes through and finds what it stands for: the first object of the name that is
seen, in the order of what is carried and then what is in the scene, and only if none is seen the
first of the name. The noun is accepted exactly when some object of the name is seen, for the object
that was found, and it is refused in every other case. -/
theorem no_namesake_masks (hg : Game.new w settings = .ok g) (calls : List Call)
    (messages : Messages) (noun : String) :
    (∃ found, (g.run calls).state.findPresent (g.run calls).world noun = .ok found ∧
      Finds (g.run calls).world (g.run calls).state noun found ∧
      ∀ o, (g.run calls).state.locate (g.run calls).world messages noun = .ok (.object o) →
        ∃ id, found = some id ∧ (g.run calls).world.objects[id]? = some o ∧
          (g.run calls).state.NamesSeen (g.run calls).world noun id) ∧
    ((∃ o, (g.run calls).state.locate (g.run calls).world messages noun = .ok (.object o)) ↔
      ∃ id, (g.run calls).state.isPresent id = true ∧
        (g.run calls).state.NamesSeen (g.run calls).world noun id) ∧
    ((∃ message, (g.run calls).state.locate (g.run calls).world messages noun =
        .ok (.refused message)) ↔
      ¬∃ id, (g.run calls).state.isPresent id = true ∧
        (g.run calls).state.NamesSeen (g.run calls).world noun id) ∧
    ∀ id, id ∈ (g.run calls).state.present ↔ (g.run calls).state.isPresent id = true := by
  have hsettled := settled_run (settled_new hg) calls
  have hs := hsettled.placed
  have hhere := hsettled.here
  obtain ⟨found, hfound, hfinds⟩ := findPresent_finds hs hhere noun
  refine ⟨⟨found, hfound, hfinds, fun o h => ?_⟩, locate_object_iff hs hhere messages noun,
    locate_refused_iff hs hhere messages noun, fun _ => mem_present_iff hs.single⟩
  obtain ⟨id, hid, ho, hseen⟩ := seen_of_locate hs h
  exact ⟨id, Except.ok.inj (hfound.symm.trans hid), ho, hseen⟩

/-- In the pantry a candle is the white one, though the red one in the closed tin comes first. The
red candle is found by its own name, but refused. -/
theorem pantry_candles : ∃ w g, World.compile pantry = .ok w ∧ Game.new w {} = .ok g ∧
    (g.run [.start]).state.findPresent (g.run [.start]).world "candle" = .ok (some "white") ∧
    (∃ id, (g.run [.start]).state.isPresent id = true ∧
      (g.run [.start]).state.NamesSeen (g.run [.start]).world "candle" id) ∧
    (g.run [.start]).state.findPresent (g.run [.start]).world "red candle" = .ok (some "red") ∧
    ¬∃ id, (g.run [.start]).state.isPresent id = true ∧
      (g.run [.start]).state.NamesSeen (g.run [.start]).world "red candle" id := by
  have hcheck : begun pantry (fun g =>
      let s := (g.run [.start]).state
      let w := (g.run [.start]).world
      decide (s.findPresent w "candle" = .ok (some "white") ∧
        s.findPresent w "red candle" = .ok (some "red")) &&
      (match s.locate w {} "candle", s.locate w {} "red candle" with
        | .ok (.object _), .ok (.refused _) => true
        | _, _ => false)) = true := by
    decide +kernel
  obtain ⟨w, g, hw, hg, hlocated⟩ := exists_of_begun hcheck
  simp only [Bool.and_eq_true, decide_eq_true_iff] at hlocated
  obtain ⟨⟨hwhite, hred⟩, hlocated⟩ := hlocated
  obtain ⟨-, hcandle, -⟩ := no_namesake_masks hg [.start] {} "candle"
  obtain ⟨-, -, hredCandle, -⟩ := no_namesake_masks hg [.start] {} "red candle"
  split at hlocated
  · rename_i o message ho hmessage
    exact ⟨w, g, hw, hg, hwhite, hcandle.mp ⟨o, ho⟩, hred, hredCandle.mp ⟨message, hmessage⟩⟩
  · cases hlocated

end Game

end TextAdventure
