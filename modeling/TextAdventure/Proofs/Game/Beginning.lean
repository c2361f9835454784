import TextAdventure.Proofs.Game.Light

/-!
# The beginning

A new game in a compiled world is what is written: every object is where it is written to be, the
holders are those of the world, and the flags are those that the containers and the light sources
start with and the initial ones (`begins_as_written`). What the scenes list agrees with that.
-/

namespace TextAdventure

open Std GameState

/-- The flags that are written to hold at the beginning. -/
inductive Authored.World.StartsWith (a : Authored.World) : Flag → Prop where
  | opened {o : Authored.Object} {c : Authored.Container} (ho : o ∈ a.objects)
      (hc : o.container = some c) (hopen : c.isOpen = true) : StartsWith a (.objectOpen o.id)
  | locked {o : Authored.Object} {c : Authored.Container} (ho : o ∈ a.objects)
      (hc : o.container = some c) (hlocked : c.isLocked = true) : StartsWith a (.objectLocked o.id)
  | lit {o : Authored.Object} {l : Authored.LightSource} (ho : o ∈ a.objects)
      (hl : o.lightSource = some l) (hon : l.on = true) : StartsWith a (.lightOn o.id)
  | initial {name : String} (h : name ∈ a.game.initialFlags) : StartsWith a (a.flag name)

/-- The state is the one that is written, and so are the objects that the scenes list. -/
structure GameState.AsWritten (s : GameState) (a : Authored.World) (w : World) : Prop where
  here : s.currentScene = a.game.startScene
  places : ∀ o ∈ a.objects, s.locationOf o.id = o.location
  scenes : ∀ id, id ∈ s.scenes ↔ ∃ sc ∈ a.scenes, sc.id = id
  containers : ∀ id, id ∈ s.containers ↔ ∃ o ∈ a.objects, o.container.isSome = true ∧ o.id = id
  flags : ∀ f, s.flags.has f = true ↔ a.StartsWith f
  listed : ∀ (id : Id) (sc : Scene), w.scenes[id]? = some sc →
    sc.objects = (a.objects.filter fun o => s.locationOf o.id == .scene id).map (·.id)
  exactly : ∀ (id : Id) (sc : Scene), w.scenes[id]? = some sc →
    ∀ o, o ∈ sc.objects ↔ s.locationOf o = .scene id

variable {a : Authored.World} {w : World} {s : GameState} {f : Flag} {id : Id}

/-! ## What is written -/

namespace World

/-- A scene exists if it is written. -/
theorem hasScene_iff_written (h : World.ofAuthored a = .ok w) :
    w.hasScene id = true ↔ ∃ sc ∈ a.scenes, sc.id = id := by
  constructor
  · intro hscene
    obtain ⟨sc, hsc⟩ := hasScene_iff.mp hscene
    obtain ⟨hid, written, hmem, hok⟩ := scene_of_resolved h hsc
    exact ⟨written, hmem, (Compile.scene_eq_ok hok).1.symm.trans hid⟩
  · rintro ⟨written, hmem, rfl⟩
    exact hasScene_of_resolved h hmem

/-- An object is found under an id if it is written with it. -/
theorem exists_object_iff (h : World.ofAuthored a = .ok w)
    (hdistinct : (a.objects.map (·.id)).Nodup) {P : Object → Prop} {Q : Authored.Object → Prop}
    (hsame : ∀ written o, Compile.object a written = .ok o → (P o ↔ Q written)) :
    (∃ o, w.objects[id]? = some o ∧ P o) ↔ ∃ o ∈ a.objects, Q o ∧ o.id = id := by
  constructor
  · rintro ⟨o, ho, hP⟩
    obtain ⟨hid, written, hmem, hok⟩ := object_of_resolved h ho
    exact ⟨written, hmem, (hsame written o hok).mp hP, (Compile.object_eq_ok hok).1.symm.trans hid⟩
  · rintro ⟨written, hmem, hQ, rfl⟩
    obtain ⟨o, ho, hok⟩ := object_of_written h hdistinct hmem
    exact ⟨o, ho, (hsame written o hok).mpr hQ⟩

/-- The initial flags and those that objects start with are the ones that are written. -/
theorem startsWith_iff (h : World.ofAuthored a = .ok w)
    (hdistinct : (a.objects.map (·.id)).Nodup) :
    (f ∈ w.initialFlags ∨ ∃ id o, w.objects[id]? = some o ∧ f ∈ startFlags o id) ↔
      a.StartsWith f := by
  rw [(rules_of_resolved h).1, List.mem_map]
  constructor
  · rintro (⟨name, hname, rfl⟩ | ⟨id, o, ho, hf⟩)
    · exact .initial hname
    · obtain ⟨rfl, written, hmem, hok⟩ := object_of_resolved h ho
      obtain ⟨hid, -, -, hcontainer, hsource, -⟩ := Compile.object_eq_ok hok
      rw [hid] at hf
      rcases mem_startFlags_iff.mp hf with ⟨rfl, c, hc, hopen⟩ | ⟨rfl, c, hc, hlocked⟩ |
        ⟨rfl, l, hl, hon⟩
      · exact .opened hmem (hcontainer.symm.trans hc) hopen
      · exact .locked hmem (hcontainer.symm.trans hc) hlocked
      · exact .lit hmem (hsource.symm.trans hl) hon
  · intro hf
    have hstarts : ∀ written ∈ a.objects, (∀ o : Object, o.container = written.container →
        o.lightSource = written.lightSource → f ∈ startFlags o written.id) →
        ∃ id o, w.objects[id]? = some o ∧ f ∈ startFlags o id := by
      intro written hmem hstart
      obtain ⟨o, ho, hok⟩ := object_of_written h hdistinct hmem
      obtain ⟨-, -, -, hcontainer, hsource, -⟩ := Compile.object_eq_ok hok
      exact ⟨written.id, o, ho, hstart o hcontainer hsource⟩
    cases hf with
    | initial hname => exact .inl ⟨_, hname, rfl⟩
    | opened ho hc hopen =>
      refine .inr (hstarts _ ho fun o hcontainer _ => ?_)
      exact mem_startFlags_iff.mpr (.inl ⟨rfl, _, hcontainer.trans hc, hopen⟩)
    | locked ho hc hlocked =>
      refine .inr (hstarts _ ho fun o hcontainer _ => ?_)
      exact mem_startFlags_iff.mpr (.inr (.inl ⟨rfl, _, hcontainer.trans hc, hlocked⟩))
    | lit ho hl hon =>
      refine .inr (hstarts _ ho fun o _ hsource => ?_)
      exact mem_startFlags_iff.mpr (.inr (.inr ⟨rfl, _, hsource.trans hl, hon⟩))

end World

/-! ## The new game -/

namespace GameState

/-- Every object begins where it is written to be. -/
theorem locationOf_written (hs : GameState.new w = .ok s) (h : World.ofAuthored a = .ok w)
    (hdistinct : (a.objects.map (·.id)).Nodup) {o : Authored.Object} (ho : o ∈ a.objects) :
    s.locationOf o.id = o.location := by
  obtain ⟨o', ho', hok⟩ := World.object_of_written h hdistinct ho
  rw [locationOf_new hs ho', (Compile.object_eq_ok hok).2.1]

section Listed

variable {sc : Scene}

/-- A scene lists the objects that begin in it, in the order in which they are written. -/
theorem listed_written (hs : GameState.new w = .ok s) (h : World.ofAuthored a = .ok w)
    (hdistinct : (a.objects.map (·.id)).Nodup) (hsc : w.scenes[id]? = some sc) :
    sc.objects = (a.objects.filter fun o => s.locationOf o.id == .scene id).map (·.id) := by
  obtain ⟨hid, written, -, hok⟩ := World.scene_of_resolved h hsc
  rw [Compile.objects_of_scene hok, ← (Compile.scene_eq_ok hok).1, hid]
  refine congrArg (List.map _ ·) (List.filter_congr fun o ho => ?_)
  rw [locationOf_written hs h hdistinct ho]

/-- What a scene lists begins in it, and what begins in it is listed. -/
theorem mem_listed_iff (hs : GameState.new w = .ok s) (h : World.ofAuthored a = .ok w)
    (hdistinct : (a.objects.map (·.id)).Nodup) (hsc : w.scenes[id]? = some sc) {o : Id} :
    o ∈ sc.objects ↔ s.locationOf o = .scene id := by
  rw [listed_written hs h hdistinct hsc, List.mem_map]
  constructor
  · rintro ⟨o', ho', rfl⟩
    exact beq_iff_eq.mp (List.mem_filter.mp ho').2
  · intro hloc
    -- what is in a scene is held there, and so it is an object of the world
    have hheld : s.Holds (.scene id) o := hloc ▸ holds_locationOf (hloc ▸ nofun)
    obtain ⟨-, obj, hobj, -⟩ := (holds_new_iff hs).mp hheld
    obtain ⟨rfl, written, hmem, hok⟩ := World.object_of_resolved h hobj
    have hid := (Compile.object_eq_ok hok).1
    exact ⟨written, List.mem_filter.mpr ⟨hmem, beq_iff_eq.mpr (hid ▸ hloc)⟩, hid.symm⟩

end Listed

/-- **The beginning**: in a compiled world a new game can be made, and it is the one that is
written. -/
theorem begins_as_written (h : World.compile a = .ok w) :
    ∃ s, GameState.new w = .ok s ∧ s.AsWritten a w := by
  obtain ⟨hfaults, hresolved⟩ := World.compile_eq_ok h
  have hdistinct := (Authored.World.faultless hfaults).objects
  have hw := World.coherent_of_compile h
  obtain ⟨s, hs⟩ := new_ok hw.start hw.starts
  refine ⟨s, hs, ?_⟩
  constructor
  case here => rw [currentScene_new hs, (World.ofAuthored_eq_ok hresolved).1]
  case places => exact fun _ ho => locationOf_written hs hresolved hdistinct ho
  case scenes =>
    intro id
    exact (mem_holders_new hs).2.trans (World.hasScene_iff_written hresolved)
  case containers =>
    intro id
    refine (mem_holders_new hs).1.trans (World.exists_object_iff hresolved hdistinct ?_)
    intro written o hok
    unfold Object.isContainer
    rw [(Compile.object_eq_ok hok).2.2.2.1]
  case flags =>
    intro f
    exact (has_new hs).trans (World.startsWith_iff hresolved hdistinct)
  case listed => exact fun _ _ hsc => listed_written hs hresolved hdistinct hsc
  case exactly => exact fun _ _ hsc _ => mem_listed_iff hs hresolved hdistinct hsc

/-- In the cellar the chest begins open with the coin in it, and the lamp, which is not written to
be on, begins lit in the player's hands by the initial flag. -/
theorem cellar_begins : ∃ w s, World.compile cellar = .ok w ∧ GameState.new w = .ok s ∧
    s.locationOf "coin" = .container "chest" ∧ s.locationOf "lamp" = .inventory ∧
    s.isOpen "chest" = true ∧ s.flags.has (.lightOn "lamp") = true ∧
    (∀ id, id ∈ s.scenes ↔ id = "stair" ∨ id = "cellar") := by
  have hbegun : Game.begun cellar (fun _ => true) = true := by decide +kernel
  obtain ⟨w, -, hw, -⟩ := Game.exists_of_begun hbegun
  obtain ⟨s, hs, hwritten⟩ := begins_as_written hw
  refine ⟨w, s, hw, hs, ?_, ?_, ?_, ?_, ?_⟩
  · exact hwritten.places _ (.tail _ (.tail _ (.head _)))
  · exact hwritten.places _ (.head _)
  · have hchest : cellar.StartsWith _ := .opened (.tail _ (.head _)) rfl rfl
    exact (hwritten.flags _).mpr hchest
  · have hlamp : cellar.flag "lampOn" = .lightOn "lamp" := by decide +kernel
    exact (hwritten.flags _).mpr (hlamp ▸ .initial (.head _))
  · intro id
    simp [hwritten.scenes, cellar, eq_comm]

end GameState

end TextAdventure
