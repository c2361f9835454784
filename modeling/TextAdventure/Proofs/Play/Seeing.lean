import TextAdventure.Proofs.State.Placed
import TextAdventure.Play.Turn

/-!
# Looking never fails

In a placed state, with the player in a scene, everything that only looks at the state goes
through: whether there is light, what a name stands for, and every text about an object, a scene
or the things carried. Each lookup is of an id that a holder lists or that is a holder, and these
exist.

Describing a scene also looks up the targets of its exits, which must exist besides
(`sceneView_ok`).
-/

namespace TextAdventure

open Std Relation

namespace GameState

variable {w : World} {s : GameState} {o id : Id} {lit : Bool}

/-! ## Trees -/

/-- The objects of a tree exist, and so do the containers around them. -/
def TreeKnown (w : World) (tree : List (Id × Option Id)) : Prop :=
  ∀ entry ∈ tree, w.hasObject entry.1 = true ∧
    ∀ holder, entry.2 = some holder → w.hasObject holder = true

theorem TreeKnown.cons {tree : List (Id × Option Id)} {holder : Option Id}
    (h : TreeKnown w tree) (ho : w.hasObject o = true)
    (hholder : ∀ c, holder = some c → w.hasObject c = true) :
    TreeKnown w ((o, holder) :: tree) := by
  intro entry hentry
  rcases List.mem_cons.mp hentry with rfl | hentry
  · exact ⟨ho, hholder⟩
  · exact h entry hentry

/-- Collecting known objects, one after the other, keeps a tree known when collecting each one
does. -/
theorem TreeKnown.foldl {tree : List (Id × Option Id)} {ids : List Id}
    {collect : List (Id × Option Id) → Id → List (Id × Option Id)}
    (hcollect : ∀ tree o, TreeKnown w tree → w.hasObject o = true → TreeKnown w (collect tree o))
    (h : TreeKnown w tree) (hids : ∀ o ∈ ids, w.hasObject o = true) :
    TreeKnown w (ids.foldl collect tree) := by
  induction ids generalizing tree with
  | nil => exact h
  | cons o rest ih =>
    rw [List.foldl_cons]
    exact ih (hcollect tree o h (hids o (List.mem_cons_self ..)))
      fun o ho => hids o (List.mem_cons_of_mem _ ho)

theorem HeldKnown.contentsOf (hs : HeldKnown w s) (ho : o ∈ s.contentsOf id) :
    w.hasObject o = true := hs (.container id) o ho

theorem treeKnown_collectFrom (hs : HeldKnown w s) {depth : Nat} {holder : Option Id}
    {tree : List (Id × Option Id)} (h : TreeKnown w tree) (ho : w.hasObject o = true)
    (hholder : ∀ c, holder = some c → w.hasObject c = true) :
    TreeKnown w (s.collectFrom depth holder tree o) := by
  induction depth generalizing holder tree o with
  | zero =>
    unfold collectFrom
    split
    · exact h
    · exact h.cons ho hholder
  | succ depth ih =>
    unfold collectFrom
    split
    · exact h
    · refine TreeKnown.foldl (fun tree x htree hx => ?_) (h.cons ho hholder)
        fun x hx => hs.contentsOf hx
      refine ih htree hx fun c hc => ?_
      rw [← Option.some.inj hc]
      exact ho

theorem treeKnown_treeOf (hs : HeldKnown w s) {roots : List Id}
    (hroots : ∀ o ∈ roots, w.hasObject o = true) : TreeKnown w (s.treeOf roots) := by
  have hfold : TreeKnown w (roots.foldl (s.collectFrom s.containers.size none) []) := by
    refine TreeKnown.foldl (fun tree o htree ho => ?_) (fun e he => (List.not_mem_nil he).elim)
      hroots
    exact treeKnown_collectFrom hs htree ho fun c hc => by cases hc
  intro entry hentry
  exact hfold entry (List.mem_reverse.mp hentry)

theorem treeKnown_inventoryTree (hs : HeldKnown w s) : TreeKnown w s.inventoryTree :=
  treeKnown_treeOf hs fun o ho => hs .inventory o ho

theorem treeKnown_sceneTree (hs : HeldKnown w s) : TreeKnown w (s.sceneTree id) :=
  treeKnown_treeOf hs fun o ho => hs (.scene id) o ho

theorem TreeKnown.ids {tree : List (Id × Option Id)} (h : TreeKnown w tree) :
    ∀ o ∈ tree.map (·.1), w.hasObject o = true := by
  intro o ho
  obtain ⟨entry, hentry, rfl⟩ := List.mem_map.mp ho
  exact (h entry hentry).1

/-! ## Light -/

/-- What the search for a light among objects finds: a light source that is on, unless it comes upon
something that does not exist. -/
theorem anyShines_finds (s : GameState) (w : World) (ids : List Id) :
    match s.anyShines w ids with
    | .ok found => found = true ↔
      ∃ o ∈ ids, ∃ obj, w.objects[o]? = some obj ∧ obj.isLightSource = true ∧ s.lampOf o = .on
    | .error cause => ∃ o ∈ ids, w.hasObject o = false ∧ cause = .unknownObject o := by
  induction ids with
  | nil => simp [anyShines, pure, Except.pure]
  | cons o rest ih =>
    unfold anyShines
    cases hobj : w.object o with
    | error cause =>
      obtain ⟨hunknown, rfl⟩ := World.object_eq_error.mp hobj
      exact ⟨o, List.mem_cons_self .., hunknown, rfl⟩
    | ok obj =>
      rw [World.object_eq_ok] at hobj
      rw [ok_bind]
      by_cases hshines : (obj.isLightSource && s.lampOf o == .on) = true
      · rw [if_pos hshines]
        rw [Bool.and_eq_true, beq_iff_eq] at hshines
        exact iff_of_true rfl ⟨o, List.mem_cons_self .., obj, hobj, hshines⟩
      · -- the first object gives no light, so that the rest decides
        rw [if_neg hshines]
        rw [Bool.and_eq_true, beq_iff_eq] at hshines
        cases hrest : s.anyShines w rest with
        | ok found =>
          rw [hrest] at ih
          refine ih.trans ?_
          rw [List.exists_mem_cons_iff, or_iff_right]
          rintro ⟨obj', hobj', hlamp⟩
          rw [hobj] at hobj'
          obtain rfl := Option.some.inj hobj'
          exact hshines hlamp
        | error cause =>
          rw [hrest] at ih
          obtain ⟨x, hx, hunknown⟩ := ih
          exact ⟨x, List.mem_cons_of_mem _ hx, hunknown⟩

theorem anyShines_ok {ids : List Id} (h : ∀ o ∈ ids, w.hasObject o = true) :
    ∃ b, s.anyShines w ids = .ok b := by
  have hfinds := anyShines_finds s w ids
  cases hshines : s.anyShines w ids with
  | ok b => exact ⟨b, rfl⟩
  | error cause =>
    rw [hshines] at hfinds
    obtain ⟨o, ho, hunknown, -⟩ := hfinds
    rw [h o ho] at hunknown
    cases hunknown

/-- It is known whether there is light. -/
theorem hasLight_ok (hs : HeldKnown w s) (hhere : w.hasScene s.currentScene = true) :
    ∃ b, s.hasLight w = .ok b := by
  obtain ⟨sc, hsc⟩ := World.hasScene_iff.mp hhere
  unfold hasLight
  rw [World.scene_eq_ok.mpr hsc, ok_bind]
  split
  · exact ⟨true, rfl⟩
  · exact anyShines_ok (treeKnown_inventoryTree hs).ids

theorem relit_eq_ok_iff {t : GameState} : s.relit w = .ok t ↔
    ∃ lit, s.hasLight w = .ok lit ∧ t = { s with flags := s.flags.assign .light lit } := by
  unfold relit
  simp only [bind_eq_ok, pure_eq_ok, eq_comm (b := t)]

theorem relit_ok (hs : HeldKnown w s) (hhere : w.hasScene s.currentScene = true) :
    ∃ t, s.relit w = .ok t := by
  obtain ⟨lit, hlit⟩ := hasLight_ok hs hhere
  exact ⟨_, relit_eq_ok_iff.mpr ⟨lit, hlit, rfl⟩⟩

/-! ## Visibility -/

theorem isVisibleIn_ok (s : GameState) (lit : Bool) (ho : w.hasObject o = true) :
    ∃ b, s.isVisibleIn w lit o = .ok b := by
  obtain ⟨obj, hobj⟩ := World.hasObject_iff.mp ho
  unfold isVisibleIn
  rw [World.object_eq_ok.mpr hobj, ok_bind]
  exact ⟨_, rfl⟩

theorem visibleAmong_ok (s : GameState) (lit : Bool) {ids : List Id}
    (h : ∀ o ∈ ids, w.hasObject o = true) :
    ∃ seen, s.visibleAmong w lit ids = .ok seen ∧ ∀ o ∈ seen, o ∈ ids :=
  filterM_ok fun o ho => isVisibleIn_ok s lit (h o ho)

/-- The object with this id has the name. -/
def namedIn (w : World) (name : String) (id : Id) : Bool := (w.objects[id]?).any (·.isNamed name)

/-- The object with this id is seen in this light. -/
def seenIn (s : GameState) (w : World) (lit : Bool) (id : Id) : Bool :=
  (s.isVisibleIn w lit id).toOption == some true

theorem seenIn_iff : s.seenIn w lit o = true ↔ s.isVisibleIn w lit o = .ok true := by
  unfold seenIn
  rw [beq_iff_eq, toOption_eq_some]

/-- The search of a list of objects that exist: the first of the name that is seen, or else what was
found before, or else the first of the name. -/
theorem findAmong_eq {name : String} {unseen : Option Id} {ids : List Id}
    (h : ∀ o ∈ ids, w.hasObject o = true) :
    s.findAmong w lit name unseen ids =
      .ok ((ids.find? fun x => namedIn w name x && s.seenIn w lit x).or
        (unseen.or (ids.find? (namedIn w name)))) := by
  induction ids generalizing unseen with
  | nil => simp [findAmong, pure, Except.pure]
  | cons first rest ih =>
    have hfirst := h first (List.mem_cons_self ..)
    obtain ⟨o, ho⟩ := World.hasObject_iff.mp hfirst
    obtain ⟨seen, hseen⟩ := isVisibleIn_ok s lit hfirst
    have hsight : s.seenIn w lit first = seen := by
      cases seen <;> simp [seenIn, hseen, Except.toOption]
    have hnamed : namedIn w name first = o.isNamed name := by simp [namedIn, ho]
    have ih := fun unseen => @ih unseen fun x hx => h x (List.mem_cons_of_mem _ hx)
    unfold findAmong
    rw [World.object_eq_ok.mpr ho, ok_bind, hseen, ← hnamed]
    cases hname : namedIn w name first with
    | false => simp [ih, hname]
    | true =>
      cases seen with
      | true => simp [hname, hsight, pure, Except.pure]
      | false =>
        -- the first match out of sight is kept for the end
        cases unseen <;> simp [ih, hname, hsight]

/-- Everything that is present exists. -/
theorem Placed.known_present (hs : Placed w s) : ∀ o ∈ s.present, w.hasObject o = true := by
  intro o ho
  unfold present at ho
  rw [List.map_append, List.mem_append] at ho
  exact ho.elim ((treeKnown_inventoryTree hs.known).ids o) ((treeKnown_sceneTree hs.known).ids o)

/-- The search for a name among what is present. -/
theorem findPresent_eq (hs : Placed w s) (hlit : s.hasLight w = .ok lit) (name : String) :
    s.findPresent w name =
      .ok ((s.present.find? fun x => namedIn w name x && s.seenIn w lit x).or
        (s.present.find? (namedIn w name))) := by
  unfold findPresent
  rw [hlit, ok_bind, findAmong_eq hs.known_present, Option.none_or]

/-- What a name stands for is found, and exists. -/
theorem findPresent_ok (hs : Placed w s) (hhere : w.hasScene s.currentScene = true)
    (name : String) : ∃ found, s.findPresent w name = .ok found ∧
      ∀ o, found = some o → w.hasObject o = true := by
  obtain ⟨lit, hlit⟩ := hasLight_ok hs.known hhere
  refine ⟨_, findPresent_eq hs hlit name, fun o ho => hs.known_present o ?_⟩
  rcases Option.or_eq_some_iff.mp ho with hseen | ⟨-, hnamed⟩
  · exact List.mem_of_find?_eq_some hseen
  · exact List.mem_of_find?_eq_some hnamed

/-- The containers around an object exist. -/
theorem Placed.known_enclosing (hs : Placed w s) (h : id ∈ s.enclosing o) :
    w.hasObject id = true := by
  have haround := (mem_enclosing_iff hs.single).mp h
  obtain ⟨obj, hobj, -⟩ := hs.containers id (mem_containers_of_transGen haround)
  exact World.hasObject_iff.mpr ⟨obj, hobj⟩

theorem Placed.known_closedAround (hs : Placed w s) {locked : Bool}
    (h : s.closedAround o = some (id, locked)) : w.hasObject id = true := by
  obtain ⟨holder, hfind, heq⟩ := Option.map_eq_some_iff.mp h
  obtain ⟨rfl, -⟩ := Prod.mk.inj heq
  exact hs.known_enclosing (List.mem_of_find?_eq_some hfind)

/-- A noun is looked up, and what is acted on is an object of the world. -/
theorem locate_ok (hs : Placed w s) (hhere : w.hasScene s.currentScene = true)
    (messages : Messages) (noun : String) : ∃ located, s.locate w messages noun = .ok located ∧
      ∀ obj, located = .object obj → ∃ o : Id, w.objects[o]? = some obj := by
  obtain ⟨found, hfound, hknown⟩ := findPresent_ok hs hhere noun
  unfold locate
  rw [hfound, ok_bind]
  cases found with
  | none => exact ⟨_, rfl, fun _ h => by cases h⟩
  | some o =>
    obtain ⟨obj, hobj⟩ := World.hasObject_iff.mp (hknown o rfl)
    obtain ⟨lit, hlit⟩ := hasLight_ok hs.known hhere
    simp only
    rw [World.object_eq_ok.mpr hobj, ok_bind, hlit, ok_bind]
    -- too dark, behind a lid, and then in sight or not
    split
    · exact ⟨_, rfl, fun _ h => by cases h⟩
    · cases hclosed : s.closedAround o with
      | some around =>
        obtain ⟨holder, locked⟩ := around
        obtain ⟨name, hname⟩ := World.nameOf_ok (hs.known_closedAround hclosed)
        simp only
        rw [hname, ok_bind]
        exact ⟨_, rfl, fun _ h => by cases h⟩
      | none =>
        obtain ⟨b, hb⟩ := isVisibleIn_ok s lit (hknown o rfl)
        simp only
        rw [hb, ok_bind]
        cases b with
        | true =>
          refine ⟨_, rfl, fun obj' h => ⟨o, ?_⟩⟩
          obtain rfl := Located.object.inj h
          exact hobj
        | false => exact ⟨_, rfl, fun _ h => by cases h⟩

/-! ## Texts -/

theorem objectView_ok {entry : Id × Option Id} (ho : w.hasObject entry.1 = true)
    (hholder : ∀ holder, entry.2 = some holder → w.hasObject holder = true) :
    ∃ view, s.objectView w lit entry = .ok view := by
  obtain ⟨o, holder⟩ := entry
  obtain ⟨obj, hobj⟩ := World.hasObject_iff.mp ho
  obtain ⟨b, hb⟩ := isVisibleIn_ok s lit ho
  unfold objectView
  simp only [World.object_eq_ok.mpr hobj, ok_bind, hb]
  cases holder with
  | none => exact ⟨_, rfl⟩
  | some c =>
    obtain ⟨around, haround⟩ := World.hasObject_iff.mp (hholder c rfl)
    simp only [Option.mapM_some, World.object_eq_ok.mpr haround, ok_bind]
    exact ⟨_, rfl⟩

theorem exitView_ok {e : Exit} (h : w.hasScene e.destination = true) :
    ∃ view, s.exitView w e = .ok view := by
  obtain ⟨target, htarget⟩ := World.hasScene_iff.mp h
  unfold exitView
  rw [World.scene_eq_ok.mpr htarget, ok_bind]
  exact ⟨_, rfl⟩

/-- A scene is described when the targets of its exits exist. -/
theorem sceneView_ok (hs : HeldKnown w s) (hhere : w.hasScene s.currentScene = true) {sc : Scene}
    (hsc : w.scenes[id]? = some sc) (hexits : ∀ e ∈ sc.exits, w.hasScene e.destination = true) :
    ∃ view, s.sceneView w id = .ok view := by
  obtain ⟨lit, hlit⟩ : ∃ lit, s.lightIn w id sc = .ok lit := by
    unfold lightIn
    split
    · exact hasLight_ok hs hhere
    · exact ⟨_, rfl⟩
  obtain ⟨objects, hobjects⟩ : ∃ views, (s.sceneTree id).mapM (s.objectView w lit) = .ok views := by
    refine mapM_ok fun entry hentry => ?_
    obtain ⟨ho, hholder⟩ := treeKnown_sceneTree hs entry hentry
    exact objectView_ok ho hholder
  obtain ⟨exits, hexits⟩ : ∃ views, (sc.exits.filter (!·.hidden)).mapM (s.exitView w) = .ok views :=
    mapM_ok fun e he => exitView_ok (hexits e (List.mem_filter.mp he).1)
  unfold sceneView
  simp only [World.scene_eq_ok.mpr hsc, ok_bind, hlit, hobjects, hexits]
  exact ⟨_, rfl⟩

theorem visibleContents_ok (hs : Placed w s) (hhere : w.hasScene s.currentScene = true)
    (id : Id) : ∃ names, s.visibleContents w id = .ok names := by
  obtain ⟨lit, hlit⟩ := hasLight_ok hs.known hhere
  obtain ⟨seen, hseen, hsub⟩ := visibleAmong_ok s lit
    fun o (ho : o ∈ s.contentsOf id) => HeldKnown.contentsOf hs.known ho
  unfold visibleContents
  rw [hlit, ok_bind, hseen, ok_bind]
  refine mapM_ok fun o ho => ?_
  obtain ⟨obj, hobj⟩ := World.hasObject_iff.mp (HeldKnown.contentsOf hs.known (hsub o ho))
  rw [World.object_eq_ok.mpr hobj]
  exact ⟨_, rfl⟩

theorem containerText_ok (hs : Placed w s) (hhere : w.hasScene s.currentScene = true)
    (obj : Object) : ∃ text, s.containerText w obj = .ok text := by
  obtain ⟨names, hnames⟩ := visibleContents_ok hs hhere obj.id
  unfold containerText
  split
  · exact ⟨_, rfl⟩
  · split
    · exact ⟨_, rfl⟩
    · rw [hnames, ok_bind]
      split
      · exact ⟨_, rfl⟩
      · exact ⟨_, rfl⟩

theorem examineText_ok (hs : Placed w s) (hhere : w.hasScene s.currentScene = true)
    (obj : Object) : ∃ text, s.examineText w obj = .ok text := by
  obtain ⟨lit, hlit⟩ := hasLight_ok hs.known hhere
  obtain ⟨text, htext⟩ := containerText_ok hs hhere obj
  unfold examineText
  rw [hlit, ok_bind, htext, ok_bind]
  exact ⟨_, rfl⟩

theorem carriedLine_ok {entry : Id × Option Id} (ho : w.hasObject entry.1 = true) :
    ∃ line, s.carriedLine w lit entry = .ok line := by
  obtain ⟨o, holder⟩ := entry
  obtain ⟨obj, hobj⟩ := World.hasObject_iff.mp ho
  obtain ⟨b, hb⟩ := isVisibleIn_ok s lit ho
  unfold carriedLine
  simp only [World.object_eq_ok.mpr hobj, ok_bind, hb]
  split
  · split
    · exact ⟨_, rfl⟩
    · exact ⟨_, rfl⟩
  · exact ⟨_, rfl⟩

theorem inventoryText_ok (hs : Placed w s) (hhere : w.hasScene s.currentScene = true)
    (emptyHanded : String) : ∃ text, s.inventoryText w emptyHanded = .ok text := by
  obtain ⟨lit, hlit⟩ := hasLight_ok hs.known hhere
  obtain ⟨lines, hlines⟩ : ∃ lines, s.inventoryTree.mapM (s.carriedLine w lit) = .ok lines :=
    mapM_ok fun entry hentry => carriedLine_ok (treeKnown_inventoryTree hs.known entry hentry).1
  unfold inventoryText
  simp only
  split
  · exact ⟨_, rfl⟩
  · rw [hlit, ok_bind, hlines, ok_bind]
    exact ⟨_, rfl⟩

end GameState

open GameState in
theorem Action.plainMessage_ok {w : World} {s : GameState} (hs : Placed w s)
    (hhere : w.hasScene s.currentScene = true) (a : Action) (messages : Messages) :
    ∃ text, a.plainMessage w messages s = .ok text := by
  obtain ⟨names, hnames⟩ := visibleContents_ok hs hhere a.object.id
  obtain ⟨text, htext⟩ := examineText_ok hs hhere a.object
  unfold Action.plainMessage
  simp only [hnames, ok_bind, htext]
  split <;> try exact ⟨_, rfl⟩
  · split <;> exact ⟨_, rfl⟩
  · split <;> exact ⟨_, rfl⟩

open GameState in
/-- What is said when an action is done is always found. -/
theorem Action.message_ok {w : World} {s : GameState} (hs : Placed w s)
    (hhere : w.hasScene s.currentScene = true) (a : Action) (messages : Messages) :
    ∃ text, a.message w messages s = .ok text := by
  unfold Action.message
  split
  · obtain ⟨lit, hlit⟩ := hasLight_ok hs.known hhere
    rw [hlit, ok_bind]
    exact ⟨_, rfl⟩
  · exact a.plainMessage_ok hs hhere messages

end TextAdventure
