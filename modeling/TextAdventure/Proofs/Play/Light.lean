import TextAdventure.Proofs.Play.Seeing

/-!
# Fresh states

Whether there is light depends on the scene, on what is carried at any depth and on the lamps among
it (`hasLight_congr`); the flag for light only repeats it. A state is `Fresh` when the flag agrees
with what can be seen. Bringing the light up to date makes any state fresh (`fresh_of_relit`), and
a passing turn and entering a scene both end with that.
-/

namespace TextAdventure

open Std

namespace GameState

variable {w : World} {s t : GameState}

/-- The flag for light says whether there is light. -/
def Fresh (w : World) (s : GameState) : Prop := s.hasLight w = .ok (s.flags.has .light)

/-! ## What light depends on -/

theorem SameHolders.collectFrom (h : SameHolders s t) (depth : Nat) (holder : Option Id)
    (found : List (Id × Option Id)) (o : Id) :
    t.collectFrom depth holder found o = s.collectFrom depth holder found o := by
  induction depth generalizing holder found o with
  | zero => rfl
  | succ depth ih =>
    have hinner : t.collectFrom depth (some o) = s.collectFrom depth (some o) := by
      funext found x
      exact ih (some o) found x
    have hcontents : t.contentsOf o = s.contentsOf o := h.contentsAt (p := .container o)
    unfold GameState.collectFrom
    simp only [hinner, hcontents]

/-- What is carried, at any depth, depends on the holders only. -/
theorem SameHolders.inventoryTree (h : SameHolders s t) : t.inventoryTree = s.inventoryTree := by
  have hcollect : t.collectFrom t.containers.size none = s.collectFrom s.containers.size none := by
    funext found o
    rw [h.containers]
    exact h.collectFrom s.containers.size none found o
  unfold GameState.inventoryTree treeOf
  rw [hcollect, h.inventory]

theorem anyShines_congr (h : ∀ id, t.lampOf id = s.lampOf id) (ids : List Id) :
    t.anyShines w ids = s.anyShines w ids := by
  induction ids with
  | nil => rfl
  | cons id rest ih =>
    unfold anyShines
    rw [h id, ih]

/-- Light depends on the scene, the holders and the lamps. -/
theorem hasLight_congr (hsame : SameHolders s t) (hscene : t.currentScene = s.currentScene)
    (hlamps : ∀ id, t.lampOf id = s.lampOf id) : t.hasLight w = s.hasLight w := by
  unfold hasLight
  rw [hscene, hsame.inventoryTree, anyShines_congr hlamps]

/-- Flags that say the same about the lamps leave the light as it is. -/
theorem hasLight_withFlags {flags : FlagSet}
    (hdead : ∀ id, flags.has (.lightDead id) = s.flags.has (.lightDead id))
    (hon : ∀ id, flags.has (.lightOn id) = s.flags.has (.lightOn id)) :
    GameState.hasLight { s with flags } w = s.hasLight w := by
  refine hasLight_congr (s := s) ⟨rfl, rfl, rfl⟩ rfl fun id => ?_
  unfold lampOf
  rw [hdead id, hon id]

/-! ## Fresh states -/

/-- Bringing the light up to date makes a state fresh. -/
theorem fresh_of_relit (h : s.relit w = .ok t) : t.Fresh w := by
  obtain ⟨lit, hlit, rfl⟩ := relit_eq_ok_iff.mp h
  -- the flag itself is no lamp, so that setting it does not change the light
  unfold Fresh
  rw [hasLight_withFlags (by simp) (by simp), hlit]
  simp

/-- That a scene has been visited does not matter for the light. -/
theorem Fresh.visited (h : s.Fresh w) (scene : Id) :
    Fresh w { s with flags := s.flags.insert (.sceneVisited scene) } := by
  unfold Fresh
  rw [hasLight_withFlags (by simp) (by simp), h]
  simp

/-- After a turn the light is up to date. -/
theorem fresh_of_tick {policy : BatteryPolicy} {events : List LightEvent}
    (h : s.tick w policy = .ok (t, events)) : t.Fresh w := by
  unfold tick at h
  simp only [bind_eq_ok, pure_eq_ok] at h
  obtain ⟨u, hu, heq⟩ := h
  obtain ⟨rfl, -⟩ := Prod.mk.inj heq
  exact fresh_of_relit hu

/-- In a scene that has been entered the flag is fresh, whether it can be described or not. -/
theorem Fresh.enterScene (hs : Placed w s) (h : s.Fresh w) (scene : Id) :
    (s.enterScene w scene).2.Fresh w := by
  unfold GameState.enterScene
  split
  · exact h
  · rename_i sc hsc
    have hsame : SameHolders s { s with currentScene := scene } := ⟨rfl, rfl, rfl⟩
    obtain ⟨t, ht⟩ := relit_ok (hsame.placed hs).known
      (World.hasScene_iff.mpr ⟨sc, World.scene_eq_ok.mp hsc⟩)
    simp only [ht]
    split
    · exact fresh_of_relit ht
    · exact (fresh_of_relit ht).visited scene

end GameState

end TextAdventure
