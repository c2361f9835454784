import TextAdventure.Proofs.Flag.Text
import TextAdventure.Proofs.Outcome
import TextAdventure.Proofs.Snapshot
import TextAdventure.World.Load

/-!
# Flags that come from texts

A flag that was read from a text is written as that text without the blanks around it. So two texts
stand for the same flag exactly when they differ in such blanks only (`ofText_eq_iff`), and the
flags that are recovered when they are written and read again are those that come from a text
(`ofText_text_iff_read`). That is so of the flags that authors name by their written form, and of
those that a snapshot brings as text (`read_flags_recovered`).
-/

namespace TextAdventure

open Text

/-! ## Texts -/

namespace Flag

variable {s t name : String} {f : Flag} {isObject isScene : Id → Bool}

/-- **Two texts stand for the same flag** exactly when they are the same without the blanks around
them. -/
theorem ofText_eq_iff : ofText s = ofText t ↔ trim s = trim t := by
  constructor
  · intro h
    rw [← text_ofText, h, text_ofText]
  · intro h
    rw [← ofText_trim, h, ofText_trim]

/-- **A flag is recovered** from its text exactly when it comes from a text. -/
theorem ofText_text_iff_read : ofText f.text = f ↔ ∃ t, ofText t = f := by
  constructor
  · exact fun h => ⟨f.text, h⟩
  · rintro ⟨t, rfl⟩
    exact ofText_text_ofText t

/-- A name that is the written form of a flag stands for that flag. -/
theorem resolve_of_written (h : ∀ text, ofText name ≠ custom text) :
    resolve isObject isScene name = ofText name := by
  unfold resolve
  split
  · rename_i text htext
    exact (h text htext).elim
  · rfl

end Flag

/-! ## Snapshots -/

/-- A flag that holds in a restored state comes from a text, unless the snapshot lists it as a
visited scene. -/
theorem Snapshot.read_or_visited {w : World} {snap : Snapshot} {s : GameState} {f : Flag}
    (h : snap.restore w = .ok s) (hf : s.flags.has f = true) :
    (∃ t, Flag.ofText t = f) ∨ ∃ scene ∈ snap.visited, f = .sceneVisited scene := by
  obtain ⟨lit, rfl⟩ := onlyFlags_restore h
  rw [FlagSet.has_assign] at hf
  split at hf
  · -- the flag for light is brought up to date and has a text of its own
    rename_i hlight
    subst hlight
    exact .inl ⟨"light", by decide +kernel⟩
  · rcases has_foldl_takeMark.mp hf with hlisted | ⟨scene, hscene, rfl⟩
    · rcases of_has_foldl_takeFlag hlisted with hnone | ⟨e, -, hread⟩
      · rw [FlagSet.has_empty] at hnone
        cases hnone
      · exact .inl ⟨e.1, hread⟩
    · exact .inr ⟨scene, hscene, rfl⟩

/-- **Flags that come from texts are recovered.** A flag that was read from a text is written as
that text without the blanks around it. So no two trimmed texts are read as the same flag, and a
flag is recovered from its text exactly when it comes from one. In particular a flag is recovered
when an author names it by its written form, and when it holds in a restored state and is not just
listed as a visited scene. -/
theorem read_flags_recovered :
    (∀ t, (Flag.ofText t).text = trim t) ∧
    (∀ s t, trim s = s → trim t = t → Flag.ofText s = Flag.ofText t → s = t) ∧
    (∀ f, Flag.ofText f.text = f ↔ ∃ t, Flag.ofText t = f) ∧
    (∀ isObject isScene name, (∀ text, Flag.ofText name ≠ .custom text) →
      Flag.ofText (Flag.resolve isObject isScene name).text =
        Flag.resolve isObject isScene name) ∧
    (∀ (w : World) (snap : Snapshot) (s : GameState), snap.restore w = .ok s →
      ∀ f, s.flags.has f = true → (∀ scene ∈ snap.visited, f ≠ .sceneVisited scene) →
        Flag.ofText f.text = f) := by
  refine ⟨Flag.text_ofText, fun s t hs ht h => ?_, fun _ => Flag.ofText_text_iff_read,
    fun isObject isScene name hname => ?_, fun w snap s h f hf hvisited => ?_⟩
  · calc s = trim s := hs.symm
      _ = trim t := Flag.ofText_eq_iff.mp h
      _ = t := ht
  · rw [Flag.resolve_of_written hname, Flag.ofText_text_ofText]
  · rcases Snapshot.read_or_visited h hf with hread | ⟨scene, hscene, rfl⟩
    · exact Flag.ofText_text_iff_read.mpr hread
    · exact (hvisited scene hscene rfl).elim

/-! ### A letterbox -/

/-- A porch with a letterbox whose id has a colon in it. -/
def letterbox : Authored.World where
  game := { title := "Porch", startScene := "porch" }
  scenes := [{ id := "porch", name := "Porch", lit := true, desc := { text := "A porch." } }]
  objects := [
    { id := "box:mail", name := "letterbox", desc := { text := "A letterbox." },
      location := .scene "porch" }]

/-- A snapshot on the porch with the letterbox open, which is written with blanks around it. -/
def Snapshot.onPorch : Snapshot :=
  { (default : Snapshot) with
    currentScene := "porch"
    flags := .ofList [(" open:box:mail\t", true)] }

/-- The open letterbox is recovered, as what an author calls `open:box:mail` and as what holds in a
state restored from the snapshot. -/
theorem letterbox_recovered :
    (Flag.ofText " open:box:mail\t").text = "open:box:mail" ∧
    (∀ t, trim t = t → Flag.ofText t = Flag.ofText "open:box:mail" → t = "open:box:mail") ∧
    (∀ isObject isScene, Flag.ofText (Flag.resolve isObject isScene "open:box:mail").text =
      Flag.resolve isObject isScene "open:box:mail") ∧
    ∃ w s, World.compile letterbox = .ok w ∧ Snapshot.onPorch.restore w = .ok s ∧
      s.flags.has (.objectOpen "box:mail") = true ∧
      Flag.ofText (Flag.objectOpen "box:mail").text = .objectOpen "box:mail" := by
  obtain ⟨hwritten, hinjective, -, hnamed, hrestored⟩ := read_flags_recovered
  have htrim : trim " open:box:mail\t" = "open:box:mail" ∧
      trim "open:box:mail" = "open:box:mail" := by
    decide +kernel
  have hread : Flag.ofText "open:box:mail" = .objectOpen "box:mail" := by decide +kernel
  have hcheck : (World.compile letterbox).toOption.any (fun w =>
      (Snapshot.onPorch.restore w).toOption.any
        (·.flags.has (.objectOpen "box:mail"))) = true := by
    decide +kernel
  obtain ⟨w, hw, hcheck⟩ := (Option.any_eq_true _ _).mp hcheck
  obtain ⟨s, hs, hheld⟩ := (Option.any_eq_true _ _).mp hcheck
  have hs := toOption_eq_some.mp hs
  refine ⟨(hwritten _).trans htrim.1, fun t ht h => hinjective t _ ht htrim.2 h,
    fun isObject isScene => hnamed isObject isScene _ fun text => ?_,
    w, s, toOption_eq_some.mp hw, hs, hheld,
    hrestored w _ s hs _ hheld fun scene _ => Flag.noConfusion⟩
  rw [hread]
  exact Flag.noConfusion

end TextAdventure
