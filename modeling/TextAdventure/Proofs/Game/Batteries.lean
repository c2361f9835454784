import TextAdventure.Proofs.Game.Light
import TextAdventure.Proofs.Play.Lamps
import TextAdventure.Proofs.Reading

/-!
# Batteries

A game that is only started and given commands takes its turns one after the other (`turns`), and
between them nothing is done to a light source but switching it (`lampRun`), as long as no flag by
which it is dead is given out or taken away by the world. So its whole life can be told from the
turns: how long it has been used, when it gives a warning, and when it dies (`battery_lifecycle`).
-/

namespace TextAdventure

open Std GameState

/-- The life of a light source over some turns of a game that lead to a state. -/
structure Lifecycle (w : World) (lamp : Id) (life : Nat) (warning : Option Nat)
    (turns : List Turn) (s : GameState) : Prop where
  /-- It has been used in the turns at whose end it was on. -/
  usage : s.usageOf lamp = turns.countP fun turn => decide (turn.ended.lampOf lamp = .on)
  /-- It has not been used for longer than it lasts. -/
  bounded : s.usageOf lamp ≤ life
  /-- It is dead when it has been used for as long as it lasts, and not before. -/
  dead : s.lampOf lamp = .dead ↔ s.usageOf lamp = life
  /-- It is reported to be depleted in the turn in which its use reaches its life. -/
  depleted : ∀ turn ∈ turns, .depleted lamp ∈ turn.events ↔
    turn.ended.usageOf lamp < life ∧ turn.after.usageOf lamp = life
  /-- That is reported once, if it comes to that. -/
  depletedOnce : (turns.flatMap (·.events)).count (.depleted lamp) =
    if s.usageOf lamp = life then 1 else 0
  /-- A warning is given in a turn that uses it, when exactly the number of turns that has been set
  is left, and when any are. -/
  warned : ∀ turn ∈ turns, ∀ n, .lowBattery lamp n ∈ turn.events ↔
    turn.ended.lampOf lamp = .on ∧ warning = some n ∧ n ≠ 0 ∧
      turn.after.usageOf lamp + n = life
  /-- There is one warning at most. -/
  warnedOnce : (turns.flatMap (·.events)).countP (·.warnsOf lamp) ≤ 1
  /-- Once it is dead, all light is that of the scene or of other light sources. -/
  light : s.lampOf lamp = .dead → s.hasLight w = .ok true →
    (∃ sc, w.scenes[s.currentScene]? = some sc ∧ sc.naturalLight = true) ∨
      ∃ id ∈ s.inventoryTree.map (·.1), id ≠ lamp ∧
        ∃ o, w.objects[id]? = some o ∧ o.isLightSource = true ∧ s.lampOf id = .on

variable {w : World} {s t : GameState} {lamp : Id} {o : Object} {source : Authored.LightSource}

/-- A run of turns that begins with an unused light source is a life of it. -/
theorem LampRun.lifecycle {policy : BatteryPolicy} {turns : List Turn}
    (h : LampRun policy source lamp s turns t) (hs : Charged (policy.lifeOf source) lamp s)
    (hunused : s.usageOf lamp = 0) (hlimit : policy.lifeOf source ≤ counterLimit) :
    Lifecycle w lamp (policy.lifeOf source) policy.lowWarning turns t := by
  obtain ⟨hcharged, hturns⟩ := h.charged hs hlimit
  have hlife : policy.lifeOf source ≠ 0 := by
    unfold BatteryPolicy.lifeOf
    omega
  have hcount := h.count_depleted hs hlimit
  have hwarned := h.countP_warnsOf hs hlimit
  rw [hunused, if_neg hlife.symm, Nat.add_zero] at hcount
  rw [hunused, BatteryPolicy.warned_zero, Nat.add_zero] at hwarned
  have habout : ∀ {events : List LightEvent} {event : LightEvent}, event.object = lamp →
      (event ∈ events ↔ event ∈ eventsOf lamp events) := by
    intro events event hobject
    simp [eventsOf, hobject]
  constructor
  case usage => rw [h.usage_eq hs hlimit, hunused, Nat.zero_add]
  case bounded => exact hcharged.usage
  case dead => exact lampOf_eq_dead_iff.trans hcharged.dead
  case depleted =>
    intro turn hturn
    obtain ⟨hended, hlamp⟩ := hturns turn hturn
    exact (habout rfl).trans (hlamp.depleted_mem_iff hended hlimit)
  case depletedOnce => exact hcount
  case warned =>
    intro turn hturn n
    obtain ⟨hended, hlamp⟩ := hturns turn hturn
    exact (habout rfl).trans (hlamp.lowBattery_mem_iff hended hlimit n)
  case warnedOnce =>
    rw [hwarned]
    exact BatteryPolicy.warned_le _ _
  case light =>
    intro hdead hlit
    rcases source_of_hasLight hlit with hnatural | ⟨id, hid, o, ho, hsource, hon⟩
    · exact .inl hnatural
    · refine .inr ⟨id, hid, ?_, o, ho, hsource, hon⟩
      rintro rfl
      rw [hdead] at hon
      cases hon

namespace Game

variable {a : Authored.World} {g : Game} {settings : Settings} {calls : List Call}

/-- The turn that a call takes, if it takes one. -/
def turn? (g : Game) : Call → Option Turn
  | .execute command => g.state.turn? g.world g.settings command
  | .start | .setFlag _ | .clearFlag _ | .restore _ => none

/-- The turns that a sequence of calls takes, in their order. -/
def turns (g : Game) : List Call → List Turn
  | [] => []
  | c :: rest => (g.turn? c).toList ++ (g.call c).turns rest

/-! ## Between the turns -/

/-- Starting a game does nothing to a light source. -/
theorem sameCharge_start (g : Game) : SameCharge lamp g.state (g.call .start).state where
  usage := by
    obtain ⟨here, flags, heq, -⟩ := enterScene_frame g.world g.state g.state.currentScene
    show (g.state.enterScene g.world g.state.currentScene).2.usageOf lamp = _
    rw [heq]
    rfl
  dead := has_enterScene g.world g.state g.state.currentScene Flag.noConfusion Flag.noConfusion

/-- A command in a world that is silent about the death of a light source leaves it alone until
time passes. -/
theorem sameCharge_of_carriedOut (hsilent : w.Silent (· == .lightDead lamp))
    {messages : Messages} {command : Command} (h : CarriedOut w messages s command t) :
    SameCharge lamp s { t with turnCount := t.turnCount + 1 } where
  usage := by
    show t.lightUsage.getD lamp 0 = _
    rw [lightUsage_of_carriedOut h]
    rfl
  dead := by
    show t.flags.has (.lightDead lamp) = _
    exact has_of_carriedOut hsilent (beq_self_eq_true _) rfl h

/-- A call uses a light source for the turn that it takes, if it takes one. -/
theorem lampRun_call (hg : g.Settled) (hsilent : g.world.Silent (· == .lightDead lamp))
    (ho : g.world.objects[lamp]? = some o) (hsource : o.lightSource = some source) {c : Call}
    (hc : c = .start ∨ ∃ command, c = .execute command) :
    (g.turn? c = none ∧ SameCharge lamp g.state (g.call c).state) ∨
      ∃ turn, g.turn? c = some turn ∧ SameCharge lamp g.state turn.ended ∧
        turn.after = (g.call c).state ∧
        LampTurn g.settings.batteryPolicy source lamp turn.ended turn.after
          (eventsOf lamp turn.events) := by
  rcases hc with rfl | ⟨command, rfl⟩
  · exact .inl ⟨rfl, g.sameCharge_start⟩
  · have hstate : (g.call (.execute command)).state =
        (g.state.execute g.world g.settings command).2 := rfl
    cases hturn : g.state.turn? g.world g.settings command with
    | none =>
      refine .inl ⟨hturn, ?_⟩
      rw [hstate, (execute_of_turn?_eq_none hg.placed hg.here hturn).1]
      exact SameLamp.rfl.toSameCharge
    | some turn =>
      obtain ⟨r, t, hexecute, -, hcarried, hended, htick⟩ :=
        execute_of_turn?_eq_some hg.placed hg.here hturn
      refine .inr ⟨turn, hturn, ?_, ?_, lampTurn_of_tick ho hsource htick⟩
      · rw [hended]
        exact sameCharge_of_carriedOut hsilent hcarried
      · rw [hstate, hexecute]

/-- **A sequence of starts and commands** is a run of turns for each light source. -/
theorem lampRun (hg : g.Settled) (hsilent : g.world.Silent (· == .lightDead lamp))
    (ho : g.world.objects[lamp]? = some o) (hsource : o.lightSource = some source)
    (hcalls : ∀ c ∈ calls, c = .start ∨ ∃ command, c = .execute command) :
    LampRun g.settings.batteryPolicy source lamp g.state (g.turns calls) (g.run calls).state := by
  induction calls generalizing g with
  | nil => exact .still SameLamp.rfl.toSameCharge
  | cons c rest ih =>
    have hc := hcalls c (List.mem_cons_self ..)
    have hworld := call_world (g := g) c
    have hrest := ih (settled_call hg c) (hworld.symm ▸ hsilent) (hworld.symm ▸ ho)
      fun c' hc' => hcalls c' (List.mem_cons_of_mem _ hc')
    rw [call_settings] at hrest
    show LampRun _ source lamp g.state ((g.turn? c).toList ++ (g.call c).turns rest)
      ((g.call c).run rest).state
    rcases lampRun_call hg hsilent ho hsource hc with
      ⟨hnone, hsame⟩ | ⟨turn, hsome, hsame, hafter, hturn⟩
    · rw [hnone]
      exact hrest.of_same hsame
    · rw [hsome]
      refine .turn hsame hturn ?_
      rw [hafter]
      exact hrest

/-! ## A whole game -/

/-- In a new game no light source has been used, and none is dead. -/
theorem unused_new (hsilent : w.Silent (· == .lightDead lamp))
    (hg : Game.new w settings = .ok g) :
    g.state.usageOf lamp = 0 ∧ g.state.flags.has (.lightDead lamp) = false := by
  obtain ⟨hworld, -, s, hs, hlit⟩ := new_eq_ok_iff.mp hg
  rw [hworld] at hs
  have husage : s.usageOf lamp = 0 := by
    unfold usageOf
    rw [(counts_new hs).2.2]
    rfl
  have hdead : s.flags.has (.lightDead lamp) = false := by
    by_contra hheld
    rcases (has_new hs).mp (Bool.of_not_eq_false hheld) with hinitial | ⟨o, obj, -, hstart⟩
    · have hnamed : (Flag.lightDead lamp == Flag.lightDead lamp) = false := hsilent.1 _ hinitial
      rw [beq_self_eq_true] at hnamed
      cases hnamed
    · -- objects start closed or open, locked, and on, but not dead
      rcases mem_startFlags hstart with h | h | h <;> cases h
  have hsame := sameLamp_relit lamp hlit
  exact ⟨hsame.usage.trans husage, hsame.dead.trans hdead⟩

/-- In worlds and settings that are loaded from files a counter can hold the life of every light
source. -/
theorem lifeOf_le_counterLimit {path : String} {content : Option ByteArray}
    (h : World.load path content = .ok w) (ho : w.objects[lamp]? = some o)
    (hsource : o.lightSource = some source) (written : Option ByteArray) :
    (Settings.load written).batteryPolicy.lifeOf source ≤ counterLimit := by
  unfold BatteryPolicy.lifeOf
  refine Nat.max_le.mpr ⟨by decide, ?_⟩
  cases hlife : source.batteryLife with
  | none => exact Settings.batteryLife_load written
  | some n => exact World.batteryLife_of_load h ho hsource n hlife

/-- **The life of a battery.** A compiled world can be played. Let the world be silent about the
death of a light source whose life, its own or that of the settings, a counter can hold. Then every
sequence of starts and commands is a `Lifecycle` of it, and once it is dead it stays dead. -/
theorem battery_lifecycle (h : World.compile a = .ok w) (settings : Settings)
    (ho : w.objects[lamp]? = some o) (hsource : o.lightSource = some source)
    (hsilent : w.Silent (· == .lightDead lamp))
    (hlimit : settings.batteryPolicy.lifeOf source ≤ counterLimit) :
    ∃ g, Game.new w settings = .ok g ∧ ∀ calls : List Call,
      (∀ c ∈ calls, c = .start ∨ ∃ command, c = .execute command) →
      Lifecycle g.world lamp (settings.batteryPolicy.lifeOf source) settings.lowBatteryWarning
        (g.turns calls) (g.run calls).state ∧
      ((g.run calls).state.lampOf lamp = .dead →
        ∀ more : List Call, (∀ c ∈ more, c = .start ∨ ∃ command, c = .execute command) →
          (g.run (calls ++ more)).state.lampOf lamp = .dead) := by
  obtain ⟨g, hg⟩ := new_ok (World.coherent_of_compile h) settings
  obtain ⟨hworld, hsettings, -⟩ := new_eq_ok_iff.mp hg
  obtain ⟨hunused, halive⟩ := unused_new hsilent hg
  have hcharged : Charged (settings.batteryPolicy.lifeOf source) lamp g.state := by
    refine ⟨by omega, ?_⟩
    rw [halive, hunused]
    unfold BatteryPolicy.lifeOf
    exact ⟨fun hdead => (Bool.false_ne_true hdead).elim, fun hlife => by omega⟩
  -- wherever the game has got to, its world and its settings are those that it began with
  have hrun : ∀ before calls : List Call,
      (∀ c ∈ calls, c = .start ∨ ∃ command, c = .execute command) →
      LampRun settings.batteryPolicy source lamp (g.run before).state
        ((g.run before).turns calls) (g.run (before ++ calls)).state := by
    intro before calls hcalls
    have hsilent' : (g.run before).world.Silent (· == .lightDead lamp) := by
      rw [run_world, hworld]
      exact hsilent
    have ho' : (g.run before).world.objects[lamp]? = some o := by
      rw [run_world, hworld]
      exact ho
    have hlamp := lampRun (settled_run (settled_new hg) before) hsilent' ho' hsource hcalls
    rw [run_settings, hsettings] at hlamp
    rw [run_append]
    exact hlamp
  refine ⟨g, hg, fun calls hcalls => ?_⟩
  have hlife := hrun [] calls hcalls
  refine ⟨hlife.lifecycle hcharged hunused hlimit, fun hdead more hmore => ?_⟩
  exact (hrun calls more hmore).dead_of_dead (hlife.charged hcharged hlimit).1 hlimit hdead

/-- Settings with a warning one turn before the end. -/
def dimming : Settings := { lowBatteryWarning := some 1 }

/-- In the cellar the lamp gives its warning in the second turn, and dies in the third. -/
theorem cellar_lifecycle : ∃ w g, World.compile cellar = .ok w ∧ Game.new w dimming = .ok g ∧
    Lifecycle g.world "lamp" 3 (some 1) (g.turns (search ++ search))
      (g.run (search ++ search)).state ∧
    (g.turns (search ++ search)).map (·.events) =
      [[], [.lowBattery "lamp" 1], [.depleted "lamp"]] := by
  have hcheck : begun cellar (fun g =>
      decide ((g.world.objects["lamp"]?).bind (·.lightSource) = some { batteryLife := some 3 }) &&
        decide (g.world.Silent (· == .lightDead "lamp")) &&
        decide ((g.turns (search ++ search)).map (·.events) =
          [[], [.lowBattery "lamp" 1], [.depleted "lamp"]])) dimming = true := by
    decide +kernel
  obtain ⟨w, g, hw, hg, hgame⟩ := exists_of_begun hcheck
  simp only [Bool.and_eq_true, decide_eq_true_iff, (new_eq_ok_iff.mp hg).1] at hgame
  obtain ⟨⟨hlamp, hsilent⟩, hevents⟩ := hgame
  obtain ⟨o, ho, hsource⟩ := Option.bind_eq_some_iff.mp hlamp
  obtain ⟨g', hg', hlife⟩ := battery_lifecycle hw dimming ho hsource hsilent (by decide)
  rw [hg] at hg'
  obtain rfl := Except.ok.inj hg'
  have hcalls : ∀ c ∈ search ++ search, c = .start ∨ ∃ command, c = .execute command := by
    simp [search]
  exact ⟨w, g, hw, hg, (hlife _ hcalls).1, hevents⟩

end Game

end TextAdventure
