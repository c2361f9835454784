import TextAdventure.Proofs.Play.Light
import TextAdventure.Proofs.Play.Silence

/-!
# Lamps

What a turn that passes does to one light source. Every object of the world is visited once, and a
light source does not notice the visits to other objects (`sameLamp_burnObject`), so that the turn
is to it what its own visit is (`lampTurn_of_tick`): it is idle, or it is worn for one more turn and
may give a warning, or it is spent.

A light source is `Charged` when it has been used for no longer than it lasts, and is dead exactly
when it has been used for that long. Each turn keeps it so (`LampTurn.charged`), and then its use,
its death and its warnings go together, turn by turn (`LampTurn.usage_eq`,
`LampTurn.count_depleted`, `LampTurn.countP_warnsOf`) and over a run of turns (`LampRun.usage_eq`
and so on).
-/

namespace TextAdventure

open Std GameState

/-- How many turns a light source lasts; even an empty one lasts for the turn in which it is
switched on. -/
def BatteryPolicy.lifeOf (policy : BatteryPolicy) (source : Authored.LightSource) : Nat :=
  max 1 (source.batteryLife.getD policy.defaultLife)

/-- The warning that a light source gives when it lasts for this many turns more. -/
def BatteryPolicy.warning (policy : BatteryPolicy) (lamp : Id) (left : Nat) : List LightEvent :=
  match policy.lowWarning with
  | some n => if left = n then [.lowBattery lamp n] else []
  | none => []

/-- The event is a warning about the light source. -/
def LightEvent.warnsOf (lamp : Id) : LightEvent → Bool
  | .lowBattery id _ => id = lamp
  | .depleted _ => false

/-- The events that are about the light source. -/
def eventsOf (lamp : Id) (events : List LightEvent) : List LightEvent :=
  events.filter (·.object = lamp)

variable {w : World} {s s' t t' u : GameState} {policy : BatteryPolicy} {lamp id : Id} {o : Object}
  {source : Authored.LightSource} {events : List LightEvent}

theorem eventsOf_append {events' : List LightEvent} :
    eventsOf lamp (events ++ events') = eventsOf lamp events ++ eventsOf lamp events' :=
  List.filter_append ..

theorem LightEvent.object_of_warnsOf {event : LightEvent} (h : event.warnsOf lamp = true) :
    event.object = lamp := by
  cases event with
  | lowBattery id n => exact of_decide_eq_true h
  | depleted id => cases h

namespace GameState

theorem lampOf_eq_dead_iff : s.lampOf lamp = .dead ↔ s.flags.has (.lightDead lamp) = true := by
  unfold lampOf
  cases s.flags.has (.lightDead lamp) <;> cases s.flags.has (.lightOn lamp) <;> simp

/-- A light source that is on is not dead. -/
theorem not_dead_of_on (h : s.lampOf lamp = .on) : s.flags.has (.lightDead lamp) = false := by
  refine Bool.eq_false_iff.mpr fun hdead => ?_
  rw [lampOf_eq_dead_iff.mpr hdead] at h
  cases h

/-! ## One visit -/

/-- The light source has been used for as long, and is as dead. -/
structure SameCharge (lamp : Id) (s t : GameState) : Prop where
  usage : t.usageOf lamp = s.usageOf lamp
  dead : t.flags.has (.lightDead lamp) = s.flags.has (.lightDead lamp)

/-- The light source is on in both states or in none, as well. -/
structure SameLamp (lamp : Id) (s t : GameState) : Prop extends SameCharge lamp s t where
  on : t.flags.has (.lightOn lamp) = s.flags.has (.lightOn lamp)

theorem SameCharge.trans (h : SameCharge lamp s t) (h' : SameCharge lamp t u) :
    SameCharge lamp s u where
  usage := h'.usage.trans h.usage
  dead := h'.dead.trans h.dead

namespace SameLamp

theorem rfl : SameLamp lamp s s := ⟨⟨Eq.refl _, Eq.refl _⟩, Eq.refl _⟩

theorem trans (h : SameLamp lamp s t) (h' : SameLamp lamp t u) : SameLamp lamp s u where
  toSameCharge := h.toSameCharge.trans h'.toSameCharge
  on := h'.on.trans h.on

theorem lampOf (h : SameLamp lamp s t) : t.lampOf lamp = s.lampOf lamp := by
  unfold GameState.lampOf
  rw [h.dead, h.on]

end SameLamp

theorem sameLamp_relit (lamp : Id) (h : s.relit w = .ok t) : SameLamp lamp s t where
  usage := by
    obtain ⟨_, rfl⟩ := onlyFlags_relit h
    rfl
  dead := has_relit h Flag.noConfusion
  on := has_relit h Flag.noConfusion

/-- A visit uses one turn, and kills a light source that has lasted. -/
theorem burn_eq : burn policy s id source =
    if policy.lifeOf source ≤ addCapped (s.usageOf id) 1 then
      ({ s with lightUsage := s.lightUsage.insert id (addCapped (s.usageOf id) 1),
                flags := (s.flags.erase (.lightOn id)).insert (.lightDead id) }, [.depleted id])
    else
      ({ s with lightUsage := s.lightUsage.insert id (addCapped (s.usageOf id) 1) },
        policy.warning id (policy.lifeOf source - addCapped (s.usageOf id) 1)) := by
  -- a light source that is visited has been used for a turn at least
  have hused : 1 ≤ addCapped (s.usageOf id) 1 := by
    unfold addCapped counterLimit
    omega
  unfold burn BatteryPolicy.lifeOf BatteryPolicy.warning
  simp only
  generalize source.batteryLife.getD policy.defaultLife = life
  by_cases hlife : life ≤ addCapped (s.usageOf id) 1
  · rw [if_pos hlife, if_pos (Nat.max_le.mpr ⟨hused, hlife⟩)]
  · have hmax : max 1 life = life := by omega
    rw [if_neg hlife, hmax, if_neg hlife]
    cases policy.lowWarning <;> rfl

/-- A light source does not notice that another object is visited. -/
theorem sameLamp_burnObject (policy : BatteryPolicy) (run : GameState × List LightEvent)
    (o : Object) (hne : id ≠ lamp) : SameLamp lamp run.1 (burnObject policy run (id, o)).1 ∧
      eventsOf lamp (burnObject policy run (id, o)).2 = eventsOf lamp run.2 := by
  have hid : ¬ compare id lamp = .eq := fun heq => hne (LawfulEqCmp.eq_of_compare heq)
  unfold burnObject
  simp only
  split
  · rename_i source _
    split
    · have hevents : eventsOf lamp (burn policy run.1 id source).2 = [] := by
        refine List.filter_eq_nil_iff.mpr fun event hevent => ?_
        rw [object_of_mem_burn hevent]
        simpa using hne
      refine ⟨?_, by rw [eventsOf_append, hevents, List.append_nil]⟩
      rw [burn_eq]
      split
      · exact ⟨⟨by simp [usageOf, ExtTreeMap.getD_insert, hid], by simp [hne]⟩, by simp [hne]⟩
      · exact ⟨⟨by simp [usageOf, ExtTreeMap.getD_insert, hid], Eq.refl _⟩, Eq.refl _⟩
    · exact ⟨.rfl, Eq.refl _⟩
  · exact ⟨.rfl, Eq.refl _⟩

theorem sameLamp_foldl (policy : BatteryPolicy) (run : GameState × List LightEvent)
    {entries : List (Id × Object)} (h : ∀ e ∈ entries, e.1 ≠ lamp) :
    SameLamp lamp run.1 (entries.foldl (burnObject policy) run).1 ∧
      eventsOf lamp (entries.foldl (burnObject policy) run).2 = eventsOf lamp run.2 := by
  induction entries generalizing run with
  | nil => exact ⟨.rfl, rfl⟩
  | cons entry rest ih =>
    obtain ⟨hfirst, hevents⟩ :=
      sameLamp_burnObject policy run entry.2 (h entry (List.mem_cons_self ..))
    obtain ⟨hrest, hlater⟩ :=
      ih (burnObject policy run entry) fun e he => h e (List.mem_cons_of_mem _ he)
    rw [List.foldl_cons]
    exact ⟨hfirst.trans hrest, hlater.trans hevents⟩

end GameState

/-! ## One turn -/

/-- What a turn that passes does to a light source, and what is reported about it. -/
inductive LampTurn (policy : BatteryPolicy) (source : Authored.LightSource) (lamp : Id)
    (s t : GameState) : List LightEvent → Prop where
  /-- It is not on. -/
  | idle (hoff : s.lampOf lamp ≠ .on) (husage : t.usageOf lamp = s.usageOf lamp)
      (hdead : t.flags.has (.lightDead lamp) = s.flags.has (.lightDead lamp)) :
      LampTurn policy source lamp s t []
  /-- It is on and lasts longer. -/
  | worn (hon : s.lampOf lamp = .on) (husage : t.usageOf lamp = addCapped (s.usageOf lamp) 1)
      (hlife : t.usageOf lamp < policy.lifeOf source)
      (hdead : t.flags.has (.lightDead lamp) = false) :
      LampTurn policy source lamp s t
        (policy.warning lamp (policy.lifeOf source - t.usageOf lamp))
  /-- It is on, and this was its last turn. -/
  | spent (hon : s.lampOf lamp = .on) (husage : t.usageOf lamp = addCapped (s.usageOf lamp) 1)
      (hlife : policy.lifeOf source ≤ t.usageOf lamp)
      (hdead : t.flags.has (.lightDead lamp) = true) :
      LampTurn policy source lamp s t [.depleted lamp]

/-- Only the light source matters. -/
theorem LampTurn.congr (h : LampTurn policy source lamp s t events) (hs : SameLamp lamp s' s)
    (ht : SameLamp lamp t t') : LampTurn policy source lamp s' t' events := by
  cases h with
  | idle hoff husage hdead =>
    refine .idle (by rw [← hs.lampOf]; exact hoff) ?_ ?_
    · rw [ht.usage, husage, hs.usage]
    · rw [ht.dead, hdead, hs.dead]
  | worn hon husage hlife hdead =>
    rw [← ht.usage] at husage hlife ⊢
    refine .worn (hs.lampOf ▸ hon) ?_ hlife (ht.dead.trans hdead)
    rw [husage, hs.usage]
  | spent hon husage hlife hdead =>
    rw [← ht.usage] at husage hlife
    refine .spent (hs.lampOf ▸ hon) ?_ hlife (ht.dead.trans hdead)
    rw [husage, hs.usage]

/-- The visit to a light source. -/
theorem lampTurn_burnObject (policy : BatteryPolicy) (run : GameState × List LightEvent)
    (lamp : Id) (hsource : o.lightSource = some source) :
    ∃ more, LampTurn policy source lamp run.1 (burnObject policy run (lamp, o)).1 more ∧
      eventsOf lamp (burnObject policy run (lamp, o)).2 = eventsOf lamp run.2 ++ more := by
  obtain ⟨s, events⟩ := run
  unfold burnObject
  simp only [hsource]
  by_cases hon : s.lampOf lamp = .on
  · rw [if_pos hon, burn_eq]
    by_cases hlife : policy.lifeOf source ≤ addCapped (s.usageOf lamp) 1
    · rw [if_pos hlife]
      refine ⟨_, .spent hon ?_ ?_ ?_, ?_⟩
      · simp [usageOf]
      · simpa [usageOf] using hlife
      · simp
      · simp [eventsOf, LightEvent.object]
    · rw [if_neg hlife]
      refine ⟨_, .worn hon ?_ ?_ ?_, ?_⟩
      · simp [usageOf]
      · simpa [usageOf] using hlife
      · exact not_dead_of_on hon
      · -- the warning is about the light source itself
        rw [eventsOf_append]
        congr 1
        refine (List.filter_eq_self.mpr fun event hevent => ?_).trans ?_
        · unfold BatteryPolicy.warning at hevent
          split at hevent
          · split at hevent
            · rw [List.mem_singleton.mp hevent]
              simp [LightEvent.object]
            · exact (List.not_mem_nil hevent).elim
          · exact (List.not_mem_nil hevent).elim
        · simp [usageOf]
  · rw [if_neg hon]
    exact ⟨[], .idle hon rfl rfl, (List.append_nil _).symm⟩

/-- **A turn that passes** is to each light source what its own visit is. -/
theorem lampTurn_of_tick (ho : w.objects[lamp]? = some o) (hsource : o.lightSource = some source)
    (h : s.tick w policy = .ok (t, events)) :
    LampTurn policy source lamp s t (eventsOf lamp events) := by
  -- the light source is listed once among the objects of the world
  obtain ⟨before, after, hsplit⟩ := List.append_of_mem
    (ExtTreeMap.mem_toList_iff_getElem?_eq_some.mpr ho : (lamp, o) ∈ w.objects.toList)
  have hkeys := w.objects.distinct_keys_toList
  rw [hsplit, List.pairwise_append, List.pairwise_cons] at hkeys
  obtain ⟨-, ⟨hafter, -⟩, hbefore⟩ := hkeys
  have hbefore : ∀ e ∈ before, e.1 ≠ lamp := by
    rintro e he rfl
    exact hbefore e he (e.1, o) (List.mem_cons_self ..) ReflCmp.compare_self
  have hafter : ∀ e ∈ after, e.1 ≠ lamp := by
    rintro e he rfl
    exact hafter e he ReflCmp.compare_self
  unfold tick at h
  simp only [bind_eq_ok, pure_eq_ok, hsplit, List.foldl_append, List.foldl_cons] at h
  obtain ⟨u, hlit, heq⟩ := h
  obtain ⟨rfl, rfl⟩ := Prod.mk.inj heq
  obtain ⟨hsame, hnone⟩ := sameLamp_foldl policy (s, []) hbefore
  generalize before.foldl (burnObject policy) (s, []) = run at hlit hsame hnone ⊢
  obtain ⟨more, hvisit, hmore⟩ := lampTurn_burnObject policy run lamp hsource
  obtain ⟨hsame', hnone'⟩ := sameLamp_foldl policy (burnObject policy run (lamp, o)) hafter
  have hevents : eventsOf lamp
      (after.foldl (burnObject policy) (burnObject policy run (lamp, o))).2 = more := by
    rw [hnone', hmore, hnone]
    rfl
  rw [hevents]
  exact hvisit.congr hsame (hsame'.trans (sameLamp_relit lamp hlit))

/-! ## Accounting -/

/-- How many warnings a light source with this life has given by the time it has been used for so
many turns. -/
def BatteryPolicy.warned (policy : BatteryPolicy) (life used : Nat) : Nat :=
  match policy.lowWarning with
  | some n => if 0 < n ∧ n < life ∧ life ≤ used + n then 1 else 0
  | none => 0

theorem BatteryPolicy.warned_le (life used : Nat) : policy.warned life used ≤ 1 := by
  unfold warned
  split
  · split <;> omega
  · omega

theorem BatteryPolicy.warned_zero (life : Nat) : policy.warned life 0 = 0 := by
  unfold warned
  split
  · rw [if_neg]
    omega
  · rfl

theorem BatteryPolicy.mem_warning {left : Nat} {event : LightEvent} :
    event ∈ policy.warning lamp left ↔
      policy.lowWarning = some left ∧ event = .lowBattery lamp left := by
  unfold warning
  cases policy.lowWarning with
  | none => simp
  | some n =>
    by_cases hleft : left = n
    · simp [hleft]
    · simp [hleft, Ne.symm hleft]

/-- The light source has been used for no longer than it lasts, and is dead exactly when it has
been used for that long. -/
structure Charged (life : Nat) (lamp : Id) (s : GameState) : Prop where
  usage : s.usageOf lamp ≤ life
  dead : s.flags.has (.lightDead lamp) = true ↔ s.usageOf lamp = life

namespace Charged

variable {life : Nat}

theorem congr (h : Charged life lamp s) (hsame : SameCharge lamp s t) : Charged life lamp t where
  usage := hsame.usage ▸ h.usage
  dead := by
    rw [hsame.dead, hsame.usage]
    exact h.dead

theorem usage_lt (h : Charged life lamp s) (hon : s.lampOf lamp = .on) : s.usageOf lamp < life := by
  refine Nat.lt_of_le_of_ne h.usage fun hlast => ?_
  have hdead := not_dead_of_on hon
  rw [h.dead.mpr hlast] at hdead
  cases hdead

end Charged

namespace LampTurn

theorem usage_eq (h : LampTurn policy source lamp s t events)
    (hs : Charged (policy.lifeOf source) lamp s) (hlimit : policy.lifeOf source ≤ counterLimit) :
    t.usageOf lamp = s.usageOf lamp + if s.lampOf lamp = .on then 1 else 0 := by
  -- a light source that is on has not reached its life, and so the counter does not stop
  have hcounts : s.lampOf lamp = .on → addCapped (s.usageOf lamp) 1 = s.usageOf lamp + 1 := by
    intro hon
    have hlt := hs.usage_lt hon
    unfold addCapped
    omega
  cases h with
  | idle hoff husage _ => rw [husage, if_neg hoff, Nat.add_zero]
  | worn hon husage _ _ => rw [husage, if_pos hon, hcounts hon]
  | spent hon husage _ _ => rw [husage, if_pos hon, hcounts hon]

/-- **A turn keeps a light source charged.** -/
theorem charged (h : LampTurn policy source lamp s t events)
    (hs : Charged (policy.lifeOf source) lamp s) (hlimit : policy.lifeOf source ≤ counterLimit) :
    Charged (policy.lifeOf source) lamp t := by
  have husage := h.usage_eq hs hlimit
  cases h with
  | idle _ husage hdead => exact hs.congr ⟨husage, hdead⟩
  | worn _ _ hlife hdead =>
    refine ⟨Nat.le_of_lt hlife, ?_⟩
    rw [hdead]
    exact ⟨fun h => (Bool.false_ne_true h).elim, fun h => (Nat.ne_of_lt hlife h).elim⟩
  | spent hon _ hlife hdead =>
    have hlt := hs.usage_lt hon
    rw [if_pos hon] at husage
    refine ⟨by omega, fun _ => by omega, fun _ => hdead⟩

/-- A light source is reported to be depleted when its use reaches its life. -/
theorem depleted_mem_iff (h : LampTurn policy source lamp s t events)
    (hs : Charged (policy.lifeOf source) lamp s) (hlimit : policy.lifeOf source ≤ counterLimit) :
    .depleted lamp ∈ events ↔
      s.usageOf lamp < policy.lifeOf source ∧ t.usageOf lamp = policy.lifeOf source := by
  have hcharged := (h.charged hs hlimit).usage
  cases h with
  | idle _ husage _ =>
    rw [husage]
    simp only [List.not_mem_nil, false_iff]
    omega
  | worn _ _ hlife _ =>
    simp only [BatteryPolicy.mem_warning, reduceCtorEq, and_false, false_iff]
    omega
  | spent hon _ hlife _ =>
    have hlt := hs.usage_lt hon
    simp only [List.mem_singleton, true_iff]
    omega

/-- A warning is given when the light source is used and lasts for as many turns more as has been
set, but for one at least. -/
theorem lowBattery_mem_iff (h : LampTurn policy source lamp s t events)
    (hs : Charged (policy.lifeOf source) lamp s) (hlimit : policy.lifeOf source ≤ counterLimit)
    (n : Nat) : .lowBattery lamp n ∈ events ↔ s.lampOf lamp = .on ∧
      policy.lowWarning = some n ∧ n ≠ 0 ∧ t.usageOf lamp + n = policy.lifeOf source := by
  have hcharged := (h.charged hs hlimit).usage
  cases h with
  | idle hoff _ _ => simp [hoff]
  | worn hon _ hlife _ =>
    simp only [BatteryPolicy.mem_warning, LightEvent.lowBattery.injEq, true_and, hon]
    constructor
    · rintro ⟨hwarning, rfl⟩
      exact ⟨hwarning, by omega, by omega⟩
    · rintro ⟨hwarning, -, hleft⟩
      obtain rfl : n = policy.lifeOf source - t.usageOf lamp := by omega
      exact ⟨hwarning, rfl⟩
  | spent hon _ hlife _ =>
    simp only [List.mem_singleton, reduceCtorEq, false_iff]
    omega

/-- The reports of depletion are counted by whether the life has been reached. -/
theorem count_depleted (h : LampTurn policy source lamp s t events)
    (hs : Charged (policy.lifeOf source) lamp s) (hlimit : policy.lifeOf source ≤ counterLimit) :
    events.count (.depleted lamp) + (if s.usageOf lamp = policy.lifeOf source then 1 else 0) =
      if t.usageOf lamp = policy.lifeOf source then 1 else 0 := by
  have hcharged := (h.charged hs hlimit).usage
  cases h with
  | idle _ husage _ => rw [husage, List.count_nil, Nat.zero_add]
  | worn hon _ hlife _ =>
    have hlt := hs.usage_lt hon
    rw [List.count_eq_zero.mpr (by simp [BatteryPolicy.mem_warning]), if_neg (by omega),
      if_neg (by omega)]
  | spent hon _ hlife _ =>
    have hlt := hs.usage_lt hon
    rw [List.count_singleton_self, if_neg (by omega), if_pos (by omega)]

theorem countP_warning {left : Nat} : (policy.warning lamp left).countP (·.warnsOf lamp) =
    if policy.lowWarning = some left then 1 else 0 := by
  unfold BatteryPolicy.warning
  cases policy.lowWarning with
  | none => simp
  | some n =>
    by_cases hleft : left = n
    · simp [hleft, LightEvent.warnsOf]
    · simp [hleft, Ne.symm hleft]

/-- The warnings are counted by how long the light source has been used. -/
theorem countP_warnsOf (h : LampTurn policy source lamp s t events)
    (hs : Charged (policy.lifeOf source) lamp s) (hlimit : policy.lifeOf source ≤ counterLimit) :
    events.countP (·.warnsOf lamp) + policy.warned (policy.lifeOf source) (s.usageOf lamp) =
      policy.warned (policy.lifeOf source) (t.usageOf lamp) := by
  have husage := h.usage_eq hs hlimit
  cases h with
  | idle _ husage _ => rw [husage, List.countP_nil, Nat.zero_add]
  | worn hon _ hlife _ =>
    rw [if_pos hon] at husage
    rw [countP_warning]
    unfold BatteryPolicy.warned
    cases policy.lowWarning with
    | none => simp
    | some n =>
      simp only [Option.some.injEq]
      split_ifs <;> omega
  | spent hon _ hlife _ =>
    have hlt := hs.usage_lt hon
    rw [if_pos hon] at husage
    have hnone : [LightEvent.depleted lamp].countP (·.warnsOf lamp) = 0 := by
      simp [LightEvent.warnsOf]
    rw [hnone, Nat.zero_add]
    unfold BatteryPolicy.warned
    cases policy.lowWarning with
    | none => rfl
    | some n =>
      simp only
      split_ifs <;> omega

end LampTurn

/-! ## A run of turns -/

/-- Between the turns of a run nothing is done to the light source but switching it. -/
inductive LampRun (policy : BatteryPolicy) (source : Authored.LightSource) (lamp : Id) :
    GameState → List Turn → GameState → Prop where
  | still {s t : GameState} (h : SameCharge lamp s t) : LampRun policy source lamp s [] t
  | turn {s t : GameState} {turn : Turn} {turns : List Turn} (h : SameCharge lamp s turn.ended)
      (hturn : LampTurn policy source lamp turn.ended turn.after (eventsOf lamp turn.events))
      (hrest : LampRun policy source lamp turn.after turns t) :
      LampRun policy source lamp s (turn :: turns) t

namespace LampRun

variable {turns : List Turn}

theorem of_same (hsame : SameCharge lamp s t) (h : LampRun policy source lamp t turns u) :
    LampRun policy source lamp s turns u := by
  cases h with
  | still h => exact .still (hsame.trans h)
  | turn h hturn hrest => exact .turn (hsame.trans h) hturn hrest

/-- **Every turn of a run finds the light source charged**, and so does the end. -/
theorem charged (h : LampRun policy source lamp s turns t)
    (hs : Charged (policy.lifeOf source) lamp s) (hlimit : policy.lifeOf source ≤ counterLimit) :
    Charged (policy.lifeOf source) lamp t ∧ ∀ turn ∈ turns,
      Charged (policy.lifeOf source) lamp turn.ended ∧
        LampTurn policy source lamp turn.ended turn.after (eventsOf lamp turn.events) := by
  induction h with
  | still h => exact ⟨hs.congr h, fun turn hturn => (List.not_mem_nil hturn).elim⟩
  | @turn s t first turns h hfirst _ ih =>
    have hended := hs.congr h
    obtain ⟨hlast, hrest⟩ := ih (hfirst.charged hended hlimit)
    refine ⟨hlast, fun turn hturn => ?_⟩
    rcases List.mem_cons.mp hturn with rfl | hturn
    · exact ⟨hended, hfirst⟩
    · exact hrest turn hturn

/-- The use of a light source is the number of the turns that found it on. -/
theorem usage_eq (h : LampRun policy source lamp s turns t)
    (hs : Charged (policy.lifeOf source) lamp s) (hlimit : policy.lifeOf source ≤ counterLimit) :
    t.usageOf lamp =
      s.usageOf lamp + turns.countP fun turn => decide (turn.ended.lampOf lamp = .on) := by
  induction h with
  | still h => exact h.usage
  | @turn s t first turns h hfirst _ ih =>
    have hended := hs.congr h
    rw [ih (hfirst.charged hended hlimit), hfirst.usage_eq hended hlimit, h.usage,
      List.countP_cons]
    simp only [decide_eq_true_eq]
    omega

/-- **What is dead stays dead.** -/
theorem dead_of_dead (h : LampRun policy source lamp s turns t)
    (hs : Charged (policy.lifeOf source) lamp s) (hlimit : policy.lifeOf source ≤ counterLimit)
    (hdead : s.lampOf lamp = .dead) : t.lampOf lamp = .dead := by
  rw [lampOf_eq_dead_iff] at hdead ⊢
  -- it has been used for as long as it lasts, and the use only grows
  have hcharged := (h.charged hs hlimit).1
  have husage := h.usage_eq hs hlimit
  rw [hs.dead.mp hdead] at husage
  refine hcharged.dead.mpr (Nat.le_antisymm hcharged.usage ?_)
  omega

/-- Over a run a light source is reported to be depleted once, if it reaches its life. -/
theorem count_depleted (h : LampRun policy source lamp s turns t)
    (hs : Charged (policy.lifeOf source) lamp s) (hlimit : policy.lifeOf source ≤ counterLimit) :
    (turns.flatMap (·.events)).count (.depleted lamp)
        + (if s.usageOf lamp = policy.lifeOf source then 1 else 0) =
      if t.usageOf lamp = policy.lifeOf source then 1 else 0 := by
  induction h with
  | still h => rw [h.usage, List.flatMap_nil, List.count_nil, Nat.zero_add]
  | @turn s t first turns h hfirst _ ih =>
    have hended := hs.congr h
    have hfirst' := hfirst.count_depleted hended hlimit
    have hrest := ih (hfirst.charged hended hlimit)
    have habout : (eventsOf lamp first.events).count (.depleted lamp) =
        first.events.count (.depleted lamp) :=
      List.count_filter (by simp [LightEvent.object])
    rw [h.usage, habout] at hfirst'
    rw [List.flatMap_cons, List.count_append]
    omega

/-- Over a run the warnings are counted by how long the light source has been used. -/
theorem countP_warnsOf (h : LampRun policy source lamp s turns t)
    (hs : Charged (policy.lifeOf source) lamp s) (hlimit : policy.lifeOf source ≤ counterLimit) :
    (turns.flatMap (·.events)).countP (·.warnsOf lamp)
        + policy.warned (policy.lifeOf source) (s.usageOf lamp) =
      policy.warned (policy.lifeOf source) (t.usageOf lamp) := by
  induction h with
  | still h => rw [h.usage, List.flatMap_nil, List.countP_nil, Nat.zero_add]
  | @turn s t first turns h hfirst _ ih =>
    have hended := hs.congr h
    have hfirst' := hfirst.countP_warnsOf hended hlimit
    have hrest := ih (hfirst.charged hended hlimit)
    have habout : (eventsOf lamp first.events).countP (·.warnsOf lamp) =
        first.events.countP (·.warnsOf lamp) := by
      unfold eventsOf
      rw [List.countP_filter]
      refine List.countP_congr fun event _ => ?_
      rw [Bool.and_eq_true, decide_eq_true_iff]
      exact ⟨And.left, fun hwarns => ⟨hwarns, LightEvent.object_of_warnsOf hwarns⟩⟩
    rw [h.usage, habout] at hfirst'
    rw [List.flatMap_cons, List.countP_append]
    omega

end LampRun

/-! ## Light -/

namespace GameState

theorem shines_of_anyShines {ids : List Id} (h : s.anyShines w ids = .ok true) :
    ∃ id ∈ ids, ∃ o, w.objects[id]? = some o ∧ o.isLightSource = true ∧ s.lampOf id = .on := by
  have hfinds := anyShines_finds s w ids
  rw [h] at hfinds
  exact hfinds.mp rfl

/-- Where there is light it is that of the scene, or that of a light source that is carried and
on. -/
theorem source_of_hasLight (h : s.hasLight w = .ok true) :
    (∃ sc, w.scenes[s.currentScene]? = some sc ∧ sc.naturalLight = true) ∨
      ∃ id ∈ s.inventoryTree.map (·.1), ∃ o, w.objects[id]? = some o ∧ o.isLightSource = true ∧
        s.lampOf id = .on := by
  unfold hasLight at h
  simp only [bind_eq_ok, World.scene_eq_ok] at h
  obtain ⟨sc, hsc, h⟩ := h
  split at h
  · rename_i hnatural
    exact .inl ⟨sc, hsc, hnatural⟩
  · exact .inr (shines_of_anyShines h)

end GameState

end TextAdventure
