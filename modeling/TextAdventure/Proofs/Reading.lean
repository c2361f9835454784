import TextAdventure.Proofs.World.Resolved
import TextAdventure.Settings.Load
import TextAdventure.World.Load

/-!
# Numbers that are read

Counters are numbers up to `counterLimit`, and whatever is read as one is checked to be one. What
has been read of a record comes from one of its fields or is the value for a missing one, so that
the lives of batteries in worlds and settings that are loaded are counters
(`World.batteryLife_of_load`, `Settings.batteryLife_load`), whatever the files are.
-/

namespace TextAdventure

namespace Reading

variable {V α : Type} {v : V} {fields : List (String × V)} {name : String} {read : V → Option α}
  {x : α}

/-! ## Fields -/

/-- A field is read, or has the value for a missing one. -/
theorem of_withDefault {default : α} (h : withDefault fields name default read = some x) :
    x = default ∨ ∃ v, read v = some x := by
  unfold withDefault at h
  split at h
  · exact .inr ⟨_, h⟩
  · exact .inl (Option.some.inj h).symm

variable [Source V]

theorem le_of_counter {n : Nat} (h : counter v = some n) : n ≤ counterLimit :=
  of_decide_eq_true (Option.filter_eq_some_iff.mp h).2

/-- What is given in a field is read. -/
theorem of_given (h : given fields name read = some (some x)) : ∃ v, read v = some x := by
  rcases of_withDefault h with hnone | ⟨v, hread⟩
  · cases hnone
  · unfold optional at hread
    obtain ⟨found, -, hfound⟩ := Option.bind_eq_some_iff.mp hread
    cases found with
    | none => simp at hfound
    | some v' =>
      rw [Option.mapM_some] at hfound
      obtain ⟨x', hx', heq⟩ := Option.map_eq_some_iff.mp hfound
      exact ⟨v', hx'.trans heq⟩

/-- Every element of a list is read. -/
theorem of_list {xs : List α} (h : list read v = some xs) : ∀ x ∈ xs, ∃ v, read v = some x := by
  unfold list at h
  obtain ⟨vs, -, hvs⟩ := Option.bind_eq_some_iff.mp h
  clear h
  induction vs generalizing xs with
  | nil =>
    obtain rfl := Option.some.inj hvs
    exact fun x hx => (List.not_mem_nil hx).elim
  | cons v rest ih =>
    rw [List.mapM_cons] at hvs
    obtain ⟨y, hy, hvs⟩ := Option.bind_eq_some_iff.mp hvs
    obtain ⟨ys, hys, hvs⟩ := Option.bind_eq_some_iff.mp hvs
    obtain rfl := Option.some.inj hvs
    intro x hx
    rcases List.mem_cons.mp hx with rfl | hx
    · exact ⟨v, hy⟩
    · exact ih hys x hx

/-! ## Records -/

theorem batteryLife_of_lightSource {l : Authored.LightSource} (h : lightSource v = some l) :
    ∀ n, l.batteryLife = some n → n ≤ counterLimit := by
  unfold lightSource at h
  simp only [Option.bind_eq_bind, Option.bind_eq_some_iff, Option.pure_def,
    Option.some.injEq] at h
  obtain ⟨fields, -, life, hlife, on, -, rfl⟩ := h
  rintro n rfl
  obtain ⟨v, hv⟩ := of_given hlife
  exact le_of_counter hv

/-- What an object that is read has as its light source is read. -/
theorem lightSource_of_object {o : Authored.Object} (h : object v = some o) :
    ∀ l, o.lightSource = some l → ∃ v : V, lightSource v = some l := by
  unfold object at h
  -- past the record itself and the ten fields before the light source
  iterate 11 obtain ⟨_, -, h⟩ := Option.bind_eq_some_iff.mp h
  obtain ⟨source, hsource, h⟩ := Option.bind_eq_some_iff.mp h
  obtain ⟨written, -, h⟩ := Option.bind_eq_some_iff.mp h
  obtain rfl := Option.some.inj h
  rintro l rfl
  exact of_given hsource

theorem objects_of_world {a : Authored.World} (h : world v = some a) :
    ∀ o ∈ a.objects, ∃ v : V, object v = some o := by
  unfold world at h
  simp only [Option.bind_eq_bind, Option.bind_eq_some_iff, Option.pure_def,
    Option.some.injEq] at h
  obtain ⟨fields, -, game, -, scenes, -, objects, hobjects, rfl⟩ := h
  intro o ho
  rcases of_withDefault hobjects with rfl | ⟨v, hv⟩
  · exact (List.not_mem_nil ho).elim
  · exact of_list hv o ho

theorem batteryLife_of_settings {s : Settings} (h : settings v = some s) :
    s.batteryLife ≤ counterLimit := by
  unfold settings at h
  simp only [Option.bind_eq_bind, Option.bind_eq_some_iff, Option.pure_def,
    Option.some.injEq] at h
  obtain ⟨fields, -, life, hlife, warning, -, limit, -, ranks, -, messages, -, rfl⟩ := h
  show life ≤ counterLimit
  rcases of_withDefault hlife with hdefault | ⟨v, hv⟩
  · rw [hdefault]
    decide
  · exact le_of_counter hv

end Reading

/-! ## Files -/

/-- The lives of the batteries in a world that is loaded are counters. -/
theorem World.batteryLife_of_load {path : String} {content : Option ByteArray} {w : World}
    (h : World.load path content = .ok w) {id : Id} {o : Object} {source : Authored.LightSource}
    (ho : w.objects[id]? = some o) (hsource : o.lightSource = some source) :
    ∀ n, source.batteryLife = some n → n ≤ counterLimit := by
  unfold World.load at h
  split at h
  · cases h
  · split at h
    · cases h
    · rename_i a hread
      obtain ⟨node, -, hworld⟩ := Option.bind_eq_some_iff.mp hread
      have hresolved := (World.compile_eq_ok (mapError_eq_ok.mp h)).2
      obtain ⟨-, written, hwritten, hobject⟩ := World.object_of_resolved hresolved ho
      obtain ⟨-, -, -, -, hlight, -⟩ := Compile.object_eq_ok hobject
      obtain ⟨v, hv⟩ := Reading.objects_of_world hworld written hwritten
      obtain ⟨v', hv'⟩ := Reading.lightSource_of_object hv source (hlight.symm.trans hsource)
      exact Reading.batteryLife_of_lightSource hv'

/-- The life of a battery in settings that are loaded is a counter. -/
theorem Settings.batteryLife_load (content : Option ByteArray) :
    (Settings.load content).batteryLife ≤ counterLimit := by
  unfold Settings.load
  cases htext : (content.bind String.fromUTF8?).bind Settings.ofText? with
  | none => decide
  | some settings =>
    obtain ⟨text, -, hsettings⟩ := Option.bind_eq_some_iff.mp htext
    unfold Settings.ofText? at hsettings
    obtain ⟨read, hread, heq⟩ := Option.bind_eq_some_iff.mp hsettings
    obtain ⟨value, -, hvalue⟩ := Option.bind_eq_some_iff.mp hread
    obtain rfl := Option.some.inj heq
    show read.batteryLife ≤ counterLimit
    exact Reading.batteryLife_of_settings hvalue

end TextAdventure
