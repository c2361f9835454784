import TextAdventure.Proofs.Game.Light
import TextAdventure.Proofs.Play.Storing
import TextAdventure.Proofs.World.Mentions

/-!
# Saved games

Every state that a game reaches can be stored: it is `Storable` as long as no unknown flag is set
from outside. So a snapshot that is taken at any time gives the same state back, whatever has been
done before (`snapshot_round_trip`).
-/

namespace TextAdventure

open Std GameState FlagSet

variable {a : Authored.World} {w : World} {g : Game} {settings : Settings}

/-- Settings do not change what a world knows and gives out. -/
theorem World.Flagwise.configured (hw : w.Flagwise) : (w.configured settings).Flagwise where
  initial f hf := by
    have hknown := hw.initial f hf
    cases f <;> exact hknown
  grants id o verb i ho hi f hf := by
    have hknown := hw.grants id o verb i ho hi f hf
    cases f <;> exact hknown

namespace Game

/-- A new game can be stored. -/
theorem storable_new (hw : w.Coherent) (hflags : w.Flagwise)
    (hg : Game.new w settings = .ok g) : Storable g.world g.state := by
  obtain ⟨hworld, -, s, hs, hlit⟩ := new_eq_ok_iff.mp hg
  have hplaced : WellPlaced g.world g.state := by
    have hrun := wellPlaced_run (settled_new hg) (acyclic_new hg hw.acyclic) []
    exact hrun
  have hconfigured : g.world.Flagwise := by
    rw [hworld]
    exact hflags.configured
  obtain ⟨hstocked, hinformed, hmetered⟩ := GameState.storable_new hconfigured hs
  have hknown := (unrewarded_relit hlit).known
  obtain ⟨_, heq⟩ := onlyFlags_relit hlit
  refine ⟨hplaced, ?_, (settled_new hg).here, fun f hf => (hknown f hf).elim (hinformed f) id, ?_,
    fresh_new hg⟩
  · rw [heq]
    exact ⟨hstocked.everyContainer, hstocked.everyScene⟩
  · rw [heq]
    exact hmetered

/-- Whatever flags are set from outside, only the light is changed besides. -/
theorem withFlags_eq (g : Game) (flags : FlagSet) :
    ∃ flags', (g.withFlags flags).2.state = { g.state with flags := flags' } ∧
      Switched g.world flags flags' := by
  unfold withFlags
  simp only
  split
  · rename_i u hu
    have hswitched := switched_relit (s := { g.state with flags }) hu
    obtain ⟨flags', rfl⟩ := onlyFlags_relit hu
    exact ⟨flags', rfl, hswitched⟩
  · exact ⟨flags, rfl, .rfl⟩

/-- Known flags that are set from outside leave everything else as it was. -/
theorem kept_withFlags (h : Storable g.world g.state) {flags : FlagSet}
    (hknown : ∀ f, flags.has f = true → g.world.Knows f) :
    Stocked g.world (g.withFlags flags).2.state ∧
      (g.withFlags flags).2.state.Informed g.world ∧
      (g.withFlags flags).2.state.Metered g.world := by
  obtain ⟨flags', heq, hswitched⟩ := withFlags_eq g flags
  rw [heq]
  exact ⟨⟨h.everyContainer, h.everyScene⟩, fun f hf => (hswitched.known f hf).elim (hknown f) id,
    h.metered⟩

/-- **Every call** that sets no unknown flag keeps a game that can be stored so. -/
theorem storable_call (hw : g.world.Coherent) (hflags : g.world.Flagwise)
    (h : Storable g.world g.state) {c : Call} (hset : ∀ f, c = .setFlag f → g.world.Knows f) :
    Storable g.world (g.call c).state := by
  have hsettled : g.Settled := ⟨h.toPlaced, h.here⟩
  have hplaced : Placed g.world (g.call c).state := by
    have hafter := (settled_call hsettled c).placed
    rwa [call_world] at hafter
  have hhere : g.world.hasScene (g.call c).state.currentScene = true := by
    have hafter := (settled_call hsettled c).here
    rwa [call_world] at hafter
  -- what is left are the holders, the flags and the use
  suffices Stocked g.world (g.call c).state ∧ (g.call c).state.Informed g.world ∧
      (g.call c).state.Metered g.world by
    obtain ⟨hstocked, hinformed, hmetered⟩ := this
    exact ⟨⟨hplaced, acyclic_call hsettled h.acyclic c⟩, hstocked, hhere, hinformed, hmetered,
      fresh_call hsettled h.fresh c⟩
  cases c with
  | start =>
    obtain ⟨here, flags, heq, -⟩ := enterScene_frame g.world g.state g.state.currentScene
    have hknown := (unrewarded_enterScene g.world g.state g.state.currentScene).known
    simp only [call, start]
    refine ⟨?_, fun f hf => (hknown f hf).elim (h.informed f) id, ?_⟩
    · rw [heq]
      exact ⟨h.everyContainer, h.everyScene⟩
    · rw [heq]
      exact h.metered
  | execute command =>
    obtain ⟨log, hmoved, -⟩ := moved_execute hsettled command
    exact ⟨hmoved.stocked h.toStocked,
      storable_execute hw hflags h.toPlaced h.here g.settings command h.informed h.metered⟩
  | setFlag flag =>
    refine kept_withFlags h fun f hf => ?_
    rw [has_insert, Bool.or_eq_true, decide_eq_true_iff] at hf
    rcases hf with rfl | hf
    · exact hset _ rfl
    · exact h.informed f hf
  | clearFlag flag =>
    refine kept_withFlags h fun f hf => ?_
    rw [has_erase, Bool.and_eq_true] at hf
    exact h.informed f hf.2
  | restore snap =>
    simp only [call, restore]
    split
    · rename_i s hs
      exact ⟨Snapshot.stocked_restore hs, Snapshot.informed_restore hs,
        Snapshot.metered_restore hs⟩
    · exact ⟨h.toStocked, h.informed, h.metered⟩

/-- **Every state that is reached can be stored**, as long as no unknown flag is set from
outside. -/
theorem storable_run (hw : g.world.Coherent) (hflags : g.world.Flagwise)
    (h : Storable g.world g.state) {calls : List Call}
    (hset : ∀ f, .setFlag f ∈ calls → g.world.Knows f) :
    Storable g.world (g.run calls).state := by
  have hrun : (g.run calls).world = g.world ∧ Storable g.world (g.run calls).state := by
    refine run_invariant_of (P := fun g' => g'.world = g.world ∧ Storable g.world g'.state)
      (fun g' c hc hg' => ?_) ⟨rfl, h⟩
    obtain ⟨hworld, hs⟩ := hg'
    refine ⟨(call_world c).trans hworld, ?_⟩
    rw [← hworld] at hw hflags hs hset ⊢
    exact storable_call hw hflags hs fun f hf => hset f (hf ▸ hc)
  exact hrun.2

/-- **Round trip.** A compiled world can be played, and wherever a game has got to, without
unknown flags set from outside, a snapshot of it is restored to the state that it was taken of, as
long as every flag that holds is read back from its text. -/
theorem snapshot_round_trip (h : World.compile a = .ok w) (settings : Settings) :
    ∃ g, Game.new w settings = .ok g ∧ ∀ calls : List Call,
      (∀ f, .setFlag f ∈ calls → w.Knows f) →
      (∀ f, (g.run calls).state.flags.has f = true → Flag.ofText f.text = f) →
      (g.run calls).snapshot.restore (g.run calls).world = .ok (g.run calls).state := by
  have hw := World.coherent_of_compile h
  have hflags := World.flagwise_of_compile h
  obtain ⟨g, hg⟩ := new_ok hw settings
  have hworld := (new_eq_ok_iff.mp hg).1
  have hconfigured : g.world.Coherent ∧ g.world.Flagwise := by
    rw [hworld]
    exact ⟨hw.configured, hflags.configured⟩
  refine ⟨g, hg, fun calls hset htext => ?_⟩
  have hset : ∀ f, .setFlag f ∈ calls → g.world.Knows f := by
    intro f hf
    have hknown := hset f hf
    rw [hworld]
    cases f <;> exact hknown
  have hstorable := storable_run hconfigured.1 hconfigured.2 (storable_new hw hflags hg) hset
  rw [snapshot, run_world]
  exact Snapshot.restore_snapshot hstorable htext

/-- A snapshot that is taken in the cellar gives the state back. -/
theorem cellar_round_trip : ∃ w g, World.compile cellar = .ok w ∧ Game.new w {} = .ok g ∧
    (g.run search).snapshot.restore (g.run search).world = .ok (g.run search).state := by
  have hcheck : begun cellar (fun g =>
      (g.run search).state.flags.toList.all fun f => decide (Flag.ofText f.text = f)) = true := by
    decide +kernel
  obtain ⟨w, g, hw, hg, htext⟩ := exists_of_begun hcheck
  obtain ⟨g', hg', hrestored⟩ := snapshot_round_trip hw {}
  rw [hg] at hg'
  obtain rfl := Except.ok.inj hg'
  refine ⟨w, g, hw, hg, hrestored search (fun f hf => ?_) fun f hf => ?_⟩
  · simp [search] at hf
  · rw [List.all_eq_true] at htext
    exact of_decide_eq_true (htext f ((mem_toList ..).mpr hf))

end Game

end TextAdventure
