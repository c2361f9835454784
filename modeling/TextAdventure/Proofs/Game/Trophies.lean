import Mathlib.Data.List.Perm.Subperm
import TextAdventure.Proofs.Game.Scoring
import TextAdventure.Proofs.Play.Trophies

/-!
# Trophies in a game

In a game that is only started and given commands, in a world that is silent about trophies, a
trophy is held exactly when the score has ever reached its threshold, however it falls afterwards.
A command that takes a turn announces the trophies that it grants and no others, and nothing else
announces any. So what is announced in the whole game are the messages of different trophies, and
every trophy is announced once at most (`trophies_high_water`).
-/

namespace TextAdventure

open Std GameState

/-! ## Ups and downs -/

/-- A fairground with a wheel that earns five points when it is spun and costs four when it is
stopped, and a bell that earns six. -/
def fairground : Authored.World where
  game := {
    title := "Fairground", startScene := "fair",
    scoring := { achievements := [
      { id := "bronze", threshold := 3, message := "You have won bronze." },
      { id := "silver", threshold := 5, message := "You have won silver." }] } }
  scenes := [{ id := "fair", name := "Fair", lit := true, desc := { text := "A fair." } }]
  objects := [
    { id := "wheel", name := "wheel", desc := { text := "A wheel." }, location := .scene "fair",
      interactions := [
        { verb := "spin", score := 5, message := some { text := "It spins." } },
        { verb := "stop", score := -4, message := some { text := "It stops." } }] },
    { id := "bell", name := "bell", desc := { text := "A bell." }, location := .scene "fair",
      interactions := [{ verb := "ring", score := 6, message := some { text := "It rings." } }] }]

namespace Game

/-- Spinning the wheel. -/
def spinWheel : Command := { verb := "spin", object := some "wheel" }

/-- Stopping the wheel. -/
def stopWheel : Command := { verb := "stop", object := some "wheel" }

/-- Ringing the bell. -/
def ringBell : Command := { verb := "ring", object := some "bell" }

/-- What the answer to a command that takes a turn is made of: the story of the command, the
messages of the trophies that it announces, and what happens to the light sources. -/
def Announces (g : Game) (command : Command) (r : Response) (trophies : List String) : Prop :=
  ∃ story ended events reports,
    Told g.world g.settings.messages g.state command story trophies ended ∧
    GameState.tick { ended with turnCount := ended.turnCount + 1 } g.world
      g.settings.batteryPolicy = .ok ((g.execute command).2.state, events) ∧
    events.mapM (eventLine g.world g.settings.messages) = .ok reports ∧
    r.message = "\n".intercalate ("\n".intercalate (story ++ trophies) :: reports)

/-- What is announced by a sequence of calls, one after the other. A command that takes a turn
announces what its answer says; no other call does. -/
inductive Announced : Game → List Call → List String → Prop where
  | nothing {g : Game} : Announced g [] []
  | turn {g : Game} {command : Command} {r : Response} {rest : List Call}
      {trophies later : List String} (hr : (g.execute command).1 = .ok r)
      (hturn : r.takesTurn = true) (hsaid : g.Announces command r trophies)
      (hrest : Announced (g.execute command).2 rest later) :
      Announced g (.execute command :: rest) (trophies ++ later)
  | free {g : Game} {c : Call} {rest : List Call} {later : List String}
      (hfree : ∀ command r, c = .execute command → (g.execute command).1 = .ok r →
        r.takesTurn = false)
      (hrest : Announced (g.call c) rest later) : Announced g (c :: rest) later

/-- The trophies that are granted by a sequence of calls, call by call. -/
def granted (g : Game) : List Call → List Authored.Achievement
  | [] => []
  | c :: rest => g.world.newTrophies g.state (g.call c).state ++ (g.call c).granted rest

/-- Trophies are granted by the score only, and those whose threshold is reached are held. -/
structure Rewarding (g : Game) : Prop where
  coherent : g.world.Coherent
  rules : g.world.TrophyRules
  silent : g.world.Silent Flag.isTrophy
  settled : g.Settled
  decorated : Decorated g.world g.state

variable {a : Authored.World} {w : World} {g : Game} {settings : Settings} {calls : List Call}
  {c : Call}

/-! ## Calls -/

/-- Starting a game grants nothing, and a command grants the trophies that it announces. -/
theorem Rewarding.granted_call (hg : g.Rewarding)
    (hc : c = .start ∨ ∃ command, c = .execute command) :
    ∃ messages, Granted g.world g.state messages (g.call c).state := by
  rcases hc with rfl | ⟨command, rfl⟩
  · have hentered := unrewarded_enterScene g.world g.state g.state.currentScene
    exact ⟨[], hentered.sameStanding.granted hg.decorated⟩
  · exact granted_execute hg.coherent hg.rules hg.silent hg.decorated hg.settled.placed
      hg.settled.here g.settings command

theorem Rewarding.call (hg : g.Rewarding) (hc : c = .start ∨ ∃ command, c = .execute command) :
    (g.call c).Rewarding := by
  obtain ⟨messages, hgranted⟩ := hg.granted_call hc
  have hworld := call_world (g := g) c
  exact ⟨hworld ▸ hg.coherent, hworld ▸ hg.rules, hworld ▸ hg.silent, settled_call hg.settled c,
    hworld ▸ hgranted.decorated⟩

theorem Rewarding.run (hg : g.Rewarding)
    (hcalls : ∀ c ∈ calls, c = .start ∨ ∃ command, c = .execute command) :
    (g.run calls).Rewarding :=
  run_invariant_of (P := Rewarding) (fun _ c hc hg => hg.call (hcalls c hc)) hg

/-! ## Runs -/

/-- **The high-water mark**: from a game without trophies, those are held whose threshold the score
has reached at some time. -/
theorem Rewarding.held_iff (hg : g.Rewarding)
    (hnone : ∀ id, g.state.flags.has (.achievement id) = false)
    (hcalls : ∀ c ∈ calls, c = .start ∨ ∃ command, c = .execute command)
    {trophy : Authored.Achievement} (htrophy : trophy ∈ g.world.scoring.achievements) :
    (g.run calls).state.flags.has (.achievement trophy.id) = true ↔
      ∃ earlier, earlier <+: calls ∧ trophy.threshold ≤ (g.run earlier).state.score := by
  -- on the last call: what came before it is a prefix of the run, and so is the run as a whole
  induction calls using List.reverseRecOn with
  | nil =>
    constructor
    · intro hheld
      rw [show (g.run []).state = g.state from rfl, hnone] at hheld
      cases hheld
    · rintro ⟨earlier, hprefix, hreached⟩
      rw [List.prefix_nil.mp hprefix] at hreached
      exact hg.decorated trophy htrophy hreached
  | append_singleton calls c ih =>
    have hbefore := fun c' hc' => hcalls c' (List.mem_append_left [c] hc')
    obtain ⟨messages, hgranted⟩ := (hg.run hbefore).granted_call
      (hcalls c (List.mem_append_right calls (List.mem_singleton_self c)))
    have hafter : (g.run (calls ++ [c])).state = ((g.run calls).call c).state := by
      rw [run_append]
      rfl
    have hheld := hgranted.held trophy (by rw [run_world]; exact htrophy)
    rw [← hafter] at hheld
    rw [hheld, Bool.or_eq_true, ih hbefore, decide_eq_true_iff]
    simp only [List.prefix_concat_iff, or_and_right, exists_or, exists_eq_left]
    exact or_comm

/-- No trophy that is held already is granted, and none is granted twice. -/
theorem Rewarding.granted_once (hg : g.Rewarding)
    (hcalls : ∀ c ∈ calls, c = .start ∨ ∃ command, c = .execute command) :
    ((g.granted calls).map (·.id)).Nodup ∧ ∀ trophy ∈ g.granted calls,
      trophy ∈ g.world.scoring.achievements ∧
        g.state.flags.has (.achievement trophy.id) = false := by
  induction calls generalizing g with
  | nil => exact ⟨List.nodup_nil, fun _ ht => (List.not_mem_nil ht).elim⟩
  | cons c rest ih =>
    have hc := hcalls c (List.mem_cons_self ..)
    obtain ⟨messages, hgranted⟩ := hg.granted_call hc
    obtain ⟨hnodup, hlater⟩ := ih (hg.call hc) fun c' hc' => hcalls c' (List.mem_cons_of_mem _ hc')
    rw [call_world] at hlater
    have hnew : ∀ trophy ∈ g.world.newTrophies g.state (g.call c).state,
        trophy ∈ g.world.scoring.achievements ∧
          (g.call c).state.flags.has (.achievement trophy.id) = true ∧
          g.state.flags.has (.achievement trophy.id) = false := by
      intro trophy ht
      obtain ⟨hmem, hflags⟩ := List.mem_filter.mp ht
      rw [Bool.and_eq_true, Bool.not_eq_true'] at hflags
      exact ⟨hmem, hflags⟩
    -- what is held before the first call is held after it, and is granted by neither
    have hkept : ∀ trophy ∈ (g.call c).granted rest,
        g.state.flags.has (.achievement trophy.id) = false := by
      intro trophy ht
      obtain ⟨hmem, hfree⟩ := hlater trophy ht
      rw [hgranted.held trophy hmem, Bool.or_eq_false_iff] at hfree
      exact hfree.1
    unfold granted
    constructor
    · rw [List.map_append, List.nodup_append']
      have hfirst : ((g.world.newTrophies g.state (g.call c).state).map (·.id)).Nodup :=
        hg.rules.distinct.sublist (List.filter_sublist.map _)
      refine ⟨hfirst, hnodup, fun id hfirst hrest => ?_⟩
      obtain ⟨trophy, ht, rfl⟩ := List.mem_map.mp hfirst
      obtain ⟨other, hother, heq⟩ := List.mem_map.mp hrest
      have hfree := (hlater other hother).2
      rw [heq, (hnew trophy ht).2.1] at hfree
      cases hfree
    · intro trophy ht
      rcases List.mem_append.mp ht with ht | ht
      · exact ⟨(hnew trophy ht).1, (hnew trophy ht).2.2⟩
      · exact ⟨(hlater trophy ht).1, hkept trophy ht⟩

/-- A command that takes a turn announces the trophies that it grants, and no others. -/
theorem Rewarding.announces_iff (hg : g.Rewarding) {command : Command} {r : Response}
    (hr : (g.execute command).1 = .ok r) (hturn : r.takesTurn = true) {trophies : List String} :
    g.Announces command r trophies ↔
      trophies = (g.world.newTrophies g.state (g.execute command).2.state).map (·.message) := by
  have hannounced : ∀ {trophies}, g.Announces command r trophies → trophies =
      (g.world.newTrophies g.state (g.execute command).2.state).map (·.message) := by
    rintro trophies ⟨story, ended, events, reports, htold, htick, -, -⟩
    have hturn : SameStanding ended { ended with turnCount := ended.turnCount + 1 } :=
      ⟨rfl, fun _ => rfl⟩
    have hgranted := granted_of_told hg.coherent hg.rules hg.silent hg.decorated htold
    exact (hgranted.congr .rfl (hturn.trans (unrewarded_tick htick).sameStanding)).announced
  refine ⟨hannounced, fun heq => ?_⟩
  obtain ⟨story, said, ended, events, reports, htold, hrest⟩ := told_of_execute hr hturn
  have hsaid : g.Announces command r said := ⟨story, ended, events, reports, htold, hrest⟩
  rw [heq, ← hannounced hsaid]
  exact hsaid

/-- A call that takes no turn grants nothing. -/
theorem Rewarding.nothing_new (hg : g.Rewarding)
    (hc : c = .start ∨ ∃ command, c = .execute command)
    (hfree : ∀ command r, c = .execute command → (g.execute command).1 = .ok r →
      r.takesTurn = false) : g.world.newTrophies g.state (g.call c).state = [] := by
  have hsame : SameStanding g.state (g.call c).state := by
    rcases hc with rfl | ⟨command, rfl⟩
    · exact (unrewarded_enterScene g.world g.state g.state.currentScene).sameStanding
    · obtain ⟨log, hexecuted⟩ :=
        executed hg.settled.placed hg.settled.here g.settings command
      show SameStanding g.state (g.state.execute g.world g.settings command).2
      have hanswer : ∀ r, (g.state.execute g.world g.settings command).1 = .ok r →
          r.takesTurn = false := fun r hr => hfree command r rfl hr
      generalize g.state.execute g.world g.settings command = out at hexecuted hanswer ⊢
      cases hexecuted with
      | failed cause => exact .rfl
      | free r hturn => exact .rfl
      | done r hturn _ _ _ _ =>
        rw [hanswer r rfl] at hturn
        cases hturn
  exact List.map_eq_nil_iff.mp (hsame.granted hg.decorated).announced.symm

/-- **A sequence of calls** announces the trophies that it grants, and nothing else. -/
theorem Rewarding.announced_iff (hg : g.Rewarding)
    (hcalls : ∀ c ∈ calls, c = .start ∨ ∃ command, c = .execute command) {lines : List String} :
    g.Announced calls lines ↔ lines = (g.granted calls).map (·.message) := by
  induction calls generalizing g lines with
  | nil =>
    constructor
    · rintro ⟨⟩
      rfl
    · rintro rfl
      exact .nothing
  | cons c rest ih =>
    have hc := hcalls c (List.mem_cons_self ..)
    have hlater : ∀ {later}, (g.call c).Announced rest later ↔
        later = ((g.call c).granted rest).map (·.message) :=
      ih (hg.call hc) fun c' hc' => hcalls c' (List.mem_cons_of_mem _ hc')
    unfold granted
    rw [List.map_append]
    constructor
    · intro h
      cases h with
      | turn hr hturn hsaid hrest =>
        rw [(hg.announces_iff hr hturn).mp hsaid, hlater.mp hrest]
        rfl
      | free hfree hrest =>
        rw [hg.nothing_new hc hfree, hlater.mp hrest]
        rfl
    · rintro rfl
      by_cases hfree : ∀ command r, c = .execute command → (g.execute command).1 = .ok r →
          r.takesTurn = false
      · rw [hg.nothing_new hc hfree]
        exact .free hfree (hlater.mpr rfl)
      · push Not at hfree
        obtain ⟨command, r, rfl, hr, hturn⟩ := hfree
        have hturn := Bool.of_not_eq_false hturn
        exact .turn hr hturn ((hg.announces_iff hr hturn).mpr rfl) (hlater.mpr rfl)

/-- What is announced in the whole game are messages of different trophies. -/
theorem Rewarding.announced_once (hg : g.Rewarding)
    (hcalls : ∀ c ∈ calls, c = .start ∨ ∃ command, c = .execute command) {lines : List String}
    (h : g.Announced calls lines) :
    lines.Subperm (g.world.scoring.achievements.map (·.message)) ∧
      ((g.world.scoring.achievements.map (·.message)).Nodup → lines.Nodup) := by
  obtain ⟨hdistinct, hwritten⟩ := hg.granted_once hcalls
  -- the trophies granted are some of those written, in another order
  obtain ⟨chosen, hperm, hsub⟩ : (g.granted calls).Subperm g.world.scoring.achievements :=
    List.subperm_of_subset (List.Nodup.of_map _ hdistinct) fun trophy ht => (hwritten trophy ht).1
  have hlines : (chosen.map (·.message)).Perm lines := by
    rw [(hg.announced_iff hcalls).mp h]
    exact hperm.map _
  exact ⟨⟨_, hlines, hsub.map _⟩, fun hmessages =>
    hlines.nodup_iff.mp (hmessages.sublist (hsub.map _))⟩

/-! ## A whole game -/

/-- A new game in a world that is silent about trophies has none. -/
theorem no_trophies_new (hsilent : w.Silent Flag.isTrophy) (hg : Game.new w settings = .ok g)
    (id : Id) : g.state.flags.has (.achievement id) = false := by
  by_contra hheld
  have hinitial := initial_of_new hg (f := .achievement id) rfl (Bool.of_not_eq_false hheld)
  cases hsilent.1 _ hinitial

theorem rewarding_new (h : World.compile a = .ok w) (hsilent : w.Silent Flag.isTrophy)
    (hg : Game.new w settings = .ok g) : g.Rewarding := by
  obtain ⟨hworld, -⟩ := new_eq_ok_iff.mp hg
  have hrules := World.trophyRules_of_compile h
  refine ⟨hworld ▸ (World.coherent_of_compile h).configured,
    hworld ▸ ⟨hrules.distinct, hrules.positive⟩, hworld ▸ hsilent, settled_new hg, ?_⟩
  intro trophy htrophy hreached
  rw [hworld] at htrophy
  rw [score_new hg] at hreached
  exact (hrules.positive trophy htrophy (Nat.le_zero.mp hreached)).elim

/-- **Trophies.** A compiled world in which no initial flag and no interaction names a trophy can
be played, and after every sequence of starts and commands a trophy is held exactly when the score
has reached its threshold at some time. A command that takes a turn announces exactly the trophies
that it grants, in the order in which they are written. What is announced in the whole sequence are
the messages of the trophies granted in it, none of which is granted twice; so no message is
announced more often than there are trophies with this message, and when these differ no message is
announced twice. -/
theorem trophies_high_water (h : World.compile a = .ok w) (hsilent : w.Silent Flag.isTrophy)
    (settings : Settings) :
    ∃ g, Game.new w settings = .ok g ∧ ∀ calls : List Call,
      (∀ c ∈ calls, c = .start ∨ ∃ command, c = .execute command) →
      (∀ trophy ∈ w.scoring.achievements,
        (g.run calls).state.flags.has (.achievement trophy.id) = true ↔
          ∃ earlier, earlier <+: calls ∧ trophy.threshold ≤ (g.run earlier).state.score) ∧
      (∀ command r trophies, ((g.run calls).execute command).1 = .ok r → r.takesTurn = true →
        ((g.run calls).Announces command r trophies ↔
          trophies = (w.newTrophies (g.run calls).state
            ((g.run calls).execute command).2.state).map (·.message))) ∧
      (∀ lines, g.Announced calls lines ↔ lines = (g.granted calls).map (·.message)) ∧
      ((g.granted calls).map (·.id)).Nodup ∧
      ∀ lines, g.Announced calls lines →
        lines.Subperm (w.scoring.achievements.map (·.message)) ∧
          ((w.scoring.achievements.map (·.message)).Nodup → lines.Nodup) := by
  obtain ⟨g, hg⟩ := new_ok (World.coherent_of_compile h) settings
  have hrewarding := rewarding_new h hsilent hg
  have hworld := (new_eq_ok_iff.mp hg).1
  refine ⟨g, hg, fun calls hcalls => ⟨fun trophy htrophy => ?_, ?_, fun lines => ?_, ?_,
    fun lines hlines => ?_⟩⟩
  · exact hrewarding.held_iff (no_trophies_new hsilent hg) hcalls (hworld ▸ htrophy)
  · intro command r trophies hr hturn
    have hiff : (g.run calls).Announces command r trophies ↔ _ :=
      (hrewarding.run hcalls).announces_iff hr hturn
    rw [run_world, hworld] at hiff
    exact hiff
  · exact hrewarding.announced_iff hcalls
  · exact (hrewarding.granted_once hcalls).1
  · have honce := hrewarding.announced_once hcalls hlines
    rw [hworld] at honce
    exact honce

/-- Spinning the wheel wins bronze and silver at once. Both are kept when the score falls below
their thresholds, and are not announced again when it rises above them once more; so each of them
is announced once in the whole game. -/
theorem fairground_trophies : ∃ w g, World.compile fairground = .ok w ∧ Game.new w {} = .ok g ∧
    (∃ r, (g.execute spinWheel).1 = .ok r ∧
      g.Announces spinWheel r ["You have won bronze.", "You have won silver."]) ∧
    (g.run [.execute spinWheel, .execute stopWheel]).state.score = 1 ∧
    (g.run [.execute spinWheel, .execute stopWheel]).state.flags.has (.achievement "silver")
      = true ∧
    ∃ r, ((g.run [.execute spinWheel, .execute stopWheel]).execute ringBell).1 = .ok r ∧
      (g.run [.execute spinWheel, .execute stopWheel]).Announces ringBell r [] ∧
      g.Announced [.execute spinWheel, .execute stopWheel, .execute ringBell]
        ["You have won bronze.", "You have won silver."] := by
  have hcheck : begun fairground (fun g =>
      let risen := g.run [.execute spinWheel]
      let fallen := g.run [.execute spinWheel, .execute stopWheel]
      let again := (fallen.execute ringBell).2
      decide (g.world.Silent Flag.isTrophy ∧ 5 ≤ risen.state.score ∧ fallen.state.score = 1 ∧
        (g.world.newTrophies g.state (g.execute spinWheel).2.state).map (·.message)
          = ["You have won bronze.", "You have won silver."] ∧
        g.world.newTrophies fallen.state again.state = [] ∧
        (g.granted [.execute spinWheel, .execute stopWheel, .execute ringBell]).map (·.message)
          = ["You have won bronze.", "You have won silver."]) &&
      [(g.execute spinWheel).1, (fallen.execute ringBell).1].all fun
        | .ok r => r.takesTurn
        | .error _ => false) = true := by
    decide +kernel
  obtain ⟨w, g, hw, hg, hgame⟩ := exists_of_begun hcheck
  have hworld := (new_eq_ok_iff.mp hg).1
  rw [Bool.and_eq_true, List.all_eq_true, decide_eq_true_iff, hworld] at hgame
  obtain ⟨⟨hsilent, hrisen, hfallen, hfirst, hagain, hwhole⟩, hturns⟩ := hgame
  obtain ⟨g', hg', htrophies⟩ := trophies_high_water hw hsilent {}
  rw [hg] at hg'
  obtain rfl := Except.ok.inj hg'
  have hanswered : ∀ {answer : Except WorldError Response},
      answer ∈ [(g.execute spinWheel).1,
        ((g.run [.execute spinWheel, .execute stopWheel]).execute ringBell).1] →
      ∃ r, answer = .ok r ∧ r.takesTurn = true := by
    intro answer hanswer
    have hturn := hturns answer hanswer
    cases answer with
    | ok r => exact ⟨r, rfl, hturn⟩
    | error cause => cases hturn
  obtain ⟨r, hr, hturn⟩ := hanswered (List.mem_cons_self ..)
  obtain ⟨r', hr', hturn'⟩ := hanswered (List.mem_cons_of_mem _ (List.mem_singleton_self _))
  obtain ⟨-, hannounced, -⟩ := htrophies [] (fun c hc => (List.not_mem_nil hc).elim)
  have hcalls : ∀ c ∈ [Call.execute spinWheel, .execute stopWheel],
      c = .start ∨ ∃ command, c = .execute command := by
    simp
  obtain ⟨hheld, hannounced', -⟩ := htrophies _ hcalls
  obtain ⟨-, -, hannouncedIff, -⟩ :=
    htrophies [.execute spinWheel, .execute stopWheel, .execute ringBell] (by simp)
  refine ⟨w, g, hw, hg, ⟨r, hr, ?_⟩, hfallen, ?_, r', hr', ?_, (hannouncedIff _).mpr hwhole.symm⟩
  · exact (hannounced spinWheel r _ hr hturn).mpr hfirst.symm
  · have hsilver : ⟨"silver", 5, "You have won silver."⟩ ∈ w.scoring.achievements := by
      rw [World.achievements_of_resolved (World.compile_eq_ok hw).2]
      simp [fairground]
    exact (hheld _ hsilver).mpr ⟨[.execute spinWheel], by simp, hrisen⟩
  · refine (hannounced' ringBell r' _ hr' hturn').mpr ?_
    show [] = (w.newTrophies _ _).map _
    exact (congrArg (List.map _) hagain).symm

end Game

end TextAdventure
