import TextAdventure.Proofs.Game.Saving
import TextAdventure.Proofs.Game.Scoring
import TextAdventure.Proofs.Play.Causes
import TextAdventure.Proofs.World.Mentions
import TextAdventure.Proofs.World.Texts

/-!
# Flags in saved games

In a game that is only started and given commands every flag that holds has a cause in the world
(`caused_run`), and by its cause it can be told whether it is read back from its text: exactly when
it is legible (`World.Causes.ofText_text_iff`). In a legible world all flags are legible, and then
no flag is lost or confused by saving (`flags_read_back`). In other worlds some can be: a sign whose
id has a slash in it earns its points again in a game that has been saved (`sign_earns_twice`).
-/

namespace TextAdventure

open Std GameState FlagSet

variable {a : Authored.World} {w : World} {f : Flag} {settings : Settings}

/-! ## Causes -/

namespace World

theorem isWorded_of_isPhysical (hf : f.isPhysical = true) : f.isWorded = true := by
  cases f <;> first | rfl | cases hf

/-- **A flag that the world causes** is read back from its text exactly when it is legible. -/
theorem Causes.ofText_text_iff (h : World.compile a = .ok w) (hf : w.Causes f) :
    Flag.ofText f.text = f ↔ f.isLegible = true := by
  cases hf with
  | initial hf =>
    obtain ⟨_, name, -, hname⟩ := named_of_mentions h (.initial hf)
    exact Flag.ofText_text_resolve_iff hname
  | granted ho hi hf =>
    obtain ⟨_, name, -, hname⟩ := named_of_mentions h (.interaction ho hi (.granted hf))
    exact Flag.ofText_text_resolve_iff hname
  | ruled hphysical _ =>
    refine Flag.ofText_text_iff (fun object verb heq => ?_) fun name heq => ?_
    · rw [heq] at hphysical
      cases hphysical
    · rw [heq] at hphysical
      cases hphysical
  | scored ho hi _ =>
    refine Flag.ofText_text_iff (fun object verb heq => ?_) fun name => Flag.noConfusion
    rw [← (Flag.interactionScored.inj heq).2]
    exact isClosed_key_of_compile h ho hi
  | revealed _ | visited _ | arrived _ _ | decorated _ =>
    exact Flag.ofText_text_iff (fun _ _ => Flag.noConfusion) fun _ => Flag.noConfusion

/-- A flag that a legible world causes is legible. -/
theorem Legible.of_causes (h : World.compile a = .ok w) (hw : w.Legible) (hf : w.Causes f) :
    f.isLegible = true := by
  have hflags := flagwise_of_compile h
  cases hf with
  | initial hf =>
    obtain ⟨_, name, -, rfl⟩ := named_of_mentions h (.initial hf)
    exact hw.flag (hflags.initial _ hf)
  | granted ho hi hf =>
    obtain ⟨_, name, -, rfl⟩ := named_of_mentions h (.interaction ho hi (.granted hf))
    exact hw.flag (hflags.grants _ _ _ _ ho hi _ hf)
  | ruled hphysical hknown => exact hw.of_isWorded hknown (isWorded_of_isPhysical hphysical)
  | revealed ho => exact hw.of_isWorded ho rfl
  | visited hscene => exact hw.of_isWorded hscene rfl
  | @scored o verb i ho hi hscore =>
    have hid := hw.objects o.id (hasObject_iff.mpr ⟨o, ho⟩)
    exact Flag.isLegible_scored_iff.mpr
      ⟨Text.ne_empty_of_isClosed hid, hw.scored _ _ _ _ ho hi hscore⟩
  | arrived hscene hexit =>
    exact hw.scenes _ ((coherent_of_compile h).exits _ _ hscene _ hexit)
  | decorated ha => exact hw.trophies _ ha

/-- Settings cause no flags. -/
theorem Causes.of_configured (h : (w.configured settings).Causes f) : w.Causes f := by
  cases h with
  | initial hf => exact .initial hf
  | granted ho hi hf => exact .granted ho hi hf
  | ruled hphysical hknown =>
    refine .ruled hphysical ?_
    cases f <;> exact hknown
  | revealed ho => exact .revealed ho
  | visited hscene => exact .visited hscene
  | scored ho hi hscore => exact .scored ho hi hscore
  | arrived hscene hexit => exact .arrived hscene hexit
  | decorated ha => exact .decorated ha

end World

namespace Game

variable {g : Game} {calls : List Call} {c : Call}

/-! ## Runs -/

/-- In a new game every flag that holds has a cause. -/
theorem caused_new (hw : w.Coherent) (hflags : w.Flagwise) (hg : Game.new w settings = .ok g) :
    g.state.Caused g.world := by
  intro f hf
  by_cases hphysical : f.isPhysical = true
  · exact .ruled hphysical ((storable_new hw hflags hg).informed f hf)
  · have hinitial := initial_of_new hg (Bool.eq_false_iff.mpr hphysical) hf
    rw [(new_eq_ok_iff.mp hg).1]
    exact .initial hinitial

theorem caused_call (hw : g.world.Coherent) (hg : g.Settled) (hs : g.state.Caused g.world)
    (hc : c = .start ∨ ∃ command, c = .execute command) : (g.call c).state.Caused g.world := by
  rcases hc with rfl | ⟨command, rfl⟩
  · exact (unrewarded_enterScene g.world g.state g.state.currentScene).caused hs
  · exact caused_execute hw hg.placed hg.here hs g.settings command

/-- **Every flag that holds** after starts and commands has a cause in the world. -/
theorem caused_run (hw : g.world.Coherent) (hg : g.Settled) (hs : g.state.Caused g.world)
    (hcalls : ∀ c ∈ calls, c = .start ∨ ∃ command, c = .execute command) :
    (g.run calls).state.Caused g.world := by
  have hrun : (g.run calls).world = g.world ∧ (g.run calls).Settled ∧
      (g.run calls).state.Caused g.world := by
    refine run_invariant_of
      (P := fun g' => g'.world = g.world ∧ g'.Settled ∧ g'.state.Caused g.world)
      (fun g' c hc hg' => ?_) ⟨rfl, hg, hs⟩
    obtain ⟨hworld, hsettled, hcaused⟩ := hg'
    refine ⟨(call_world c).trans hworld, settled_call hsettled c, ?_⟩
    rw [← hworld] at hw hcaused ⊢
    exact caused_call hw hsettled hcaused (hcalls c hc)
  exact hrun.2.2

/-! ## Saving -/

/-- **Flags are read back.** A compiled world can be played, and after every sequence of starts and
commands a flag that holds is read back from its text exactly when it is legible. In a legible
world all flags that hold are legible. Where they are, no two have the same text, and a snapshot is
restored to the state that it was taken of: nothing that holds is lost. Elsewhere, too, no legible
flag is lost when a snapshot is restored, apart from the light, which is found anew. -/
theorem flags_read_back (h : World.compile a = .ok w) (settings : Settings) :
    ∃ g, Game.new w settings = .ok g ∧ ∀ calls : List Call,
      (∀ c ∈ calls, c = .start ∨ ∃ command, c = .execute command) →
      (∀ f, (g.run calls).state.flags.has f = true →
        (Flag.ofText f.text = f ↔ f.isLegible = true)) ∧
      (w.Legible → ∀ f, (g.run calls).state.flags.has f = true → f.isLegible = true) ∧
      ((∀ f, (g.run calls).state.flags.has f = true → f.isLegible = true) →
        (∀ f f', (g.run calls).state.flags.has f = true →
          (g.run calls).state.flags.has f' = true → f.text = f'.text → f = f') ∧
        (g.run calls).snapshot.restore (g.run calls).world = .ok (g.run calls).state) ∧
      ∀ s, (g.run calls).snapshot.restore (g.run calls).world = .ok s →
        ∀ f, (g.run calls).state.flags.has f = true → f.isLegible = true → f ≠ .light →
          s.flags.has f = true := by
  have hw := World.coherent_of_compile h
  have hflags := World.flagwise_of_compile h
  obtain ⟨g, hg⟩ := new_ok hw settings
  have hworld := (new_eq_ok_iff.mp hg).1
  have hrules : g.world.Coherent ∧ g.world.Flagwise := by
    rw [hworld]
    exact ⟨hw.configured, hflags.configured⟩
  refine ⟨g, hg, fun calls hcalls => ?_⟩
  have hcaused : ∀ f, (g.run calls).state.flags.has f = true → w.Causes f := by
    intro f hf
    have hcause := caused_run hrules.1 (settled_new hg) (caused_new hw hflags hg) hcalls f hf
    rw [hworld] at hcause
    exact hcause.of_configured
  have hread : ∀ f, (g.run calls).state.flags.has f = true →
      (Flag.ofText f.text = f ↔ f.isLegible = true) :=
    fun f hf => (hcaused f hf).ofText_text_iff h
  refine ⟨hread, fun hlegible f hf => hlegible.of_causes h (hcaused f hf),
    fun hlegible => ⟨fun f f' hf hf' htext => ?_, ?_⟩, fun s hs f hf hlegible hlight => ?_⟩
  · have hback := (hread f hf).mpr (hlegible f hf)
    rw [htext, (hread f' hf').mpr (hlegible f' hf')] at hback
    exact hback.symm
  · have hset : ∀ f, .setFlag f ∈ calls → g.world.Knows f := by
      intro f hf
      obtain hstart | ⟨command, hexecute⟩ := hcalls _ hf
      · cases hstart
      · cases hexecute
    have hstorable := storable_run hrules.1 hrules.2 (storable_new hw hflags hg) hset
    rw [snapshot, run_world]
    exact Snapshot.restore_snapshot hstorable fun f hf => (hread f hf).mpr (hlegible f hf)
  · exact (Snapshot.has_restore_iff hs hlight).mpr (.inl ⟨f, hf, (hread f hf).mpr hlegible⟩)

/-- In the cellar all ids are legible, and what a search has earned there is not lost by saving. -/
theorem cellar_read_back : ∃ w g, World.compile cellar = .ok w ∧ Game.new w {} = .ok g ∧
    w.Legible ∧
    (g.run search).state.flags.has (.interactionScored "chest" "search") = true ∧
    (∀ f, (g.run search).state.flags.has f = true → Flag.ofText f.text = f) ∧
    (g.run search).snapshot.restore (g.run search).world = .ok (g.run search).state := by
  have hcheck : begun cellar (fun g => decide (g.world.Legible ∧
      (g.run search).state.flags.has (.interactionScored "chest" "search") = true)) = true := by
    decide +kernel
  obtain ⟨w, g, hw, hg, hgame⟩ := exists_of_begun hcheck
  rw [decide_eq_true_iff, (new_eq_ok_iff.mp hg).1] at hgame
  obtain ⟨hlegible, hscored⟩ := hgame
  have hlegible : w.Legible :=
    ⟨hlegible.scenes, hlegible.objects, hlegible.scored, hlegible.trophies⟩
  obtain ⟨g', hg', hread⟩ := flags_read_back hw {}
  rw [hg] at hg'
  obtain rfl := Except.ok.inj hg'
  have hcalls : ∀ c ∈ search, c = .start ∨ ∃ command, c = .execute command := by
    simp [search]
  obtain ⟨hiff, hall, hsaved, -⟩ := hread search hcalls
  have hall := hall hlegible
  exact ⟨w, g, hw, hg, hlegible, hscored, fun f hf => (hiff f hf).mpr (hall f hf),
    (hsaved hall).2⟩

end Game

/-! ## A sign on a shed -/

/-- A garden with a shed, and a sign on it that earns five points when it is read. -/
def garden : Authored.World where
  game := { title := "Garden", startScene := "garden" }
  scenes := [{ id := "garden", name := "Garden", lit := true, desc := { text := "A garden." } }]
  objects := [
    { id := "shed", name := "shed", desc := { text := "A shed." }, location := .scene "garden" },
    { id := "shed/sign", name := "sign", desc := { text := "A sign." },
      location := .scene "garden",
      interactions := [
        { verb := "read", score := 5, message := some { text := "It reads: tools." } }] }]

namespace Game

/-- Reading the sign. -/
def readSign : Command := { verb := "read", object := some "sign" }

/-- In the garden the flag of the sign that has been read is read back as one of the shed. The
snapshot is restored, but without the flag, and reading the sign earns its points again. -/
theorem sign_earns_twice : ∃ w g s, World.compile garden = .ok w ∧ Game.new w {} = .ok g ∧
    (g.run [.execute readSign]).state.flags.has (.interactionScored "shed/sign" "read") = true ∧
    Flag.ofText (Flag.interactionScored "shed/sign" "read").text =
      .interactionScored "shed" "sign/read" ∧
    (g.run [.execute readSign]).snapshot.restore g.world = .ok s ∧
    s.flags.has (.interactionScored "shed/sign" "read") = false ∧
    (g.run [.execute readSign]).state.score = 5 ∧
    (g.run [.execute readSign, .restore (g.run [.execute readSign]).snapshot,
      .execute readSign]).state.score = 10 := by
  have hcheck : begun garden (fun g =>
      let played := g.run [.execute readSign]
      played.state.flags.has (.interactionScored "shed/sign" "read") &&
      (played.snapshot.restore g.world).toOption.any
        (fun s => !s.flags.has (.interactionScored "shed/sign" "read")) &&
      decide (played.state.score = 5 ∧ (g.run [.execute readSign, .restore played.snapshot,
        .execute readSign]).state.score = 10)) = true := by
    decide +kernel
  obtain ⟨w, g, hw, hg, hgame⟩ := exists_of_begun hcheck
  simp only [Bool.and_eq_true, decide_eq_true_iff] at hgame
  obtain ⟨⟨hheld, hrestored⟩, hscore, htwice⟩ := hgame
  obtain ⟨s, hs, hlost⟩ := (Option.any_eq_true _ _).mp hrestored
  refine ⟨w, g, s, hw, hg, hheld, by decide +kernel, ?_, by simpa using hlost, hscore, htwice⟩
  exact toOption_eq_some.mp hs

end Game

end TextAdventure
