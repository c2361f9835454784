import TextAdventure.Proofs.Ron.Source
import TextAdventure.Proofs.RoundTrip
import TextAdventure.Saves.File

/-!
# Files of saved games are read back

The text that a snapshot is written to is read as the snapshot again, as long as its numbers are
counters (`ofText?_toText`), and the state that it was taken of is restored from it
(`restore_ofText?_toText`).
-/

namespace TextAdventure

open Std Ron

/-- The numbers of the snapshot are counters. -/
structure Snapshot.Counted (snap : Snapshot) : Prop where
  score : snap.score ≤ counterLimit
  usage : ∀ (id : Id) (used : Nat), snap.lightUsage[id]? = some used → used ≤ counterLimit

/-! ## Writing -/

namespace Saves

theorem readsBack_texts (xs : List String) : (texts xs).ReadsBack := by
  refine .list fun item hitem => ?_
  obtain ⟨x, -, rfl⟩ := List.mem_map.mp hitem
  exact .text x

theorem readsBack_count (n : Nat) : (count n).ReadsBack := .number n

theorem readsBack_truth (b : Bool) : (truth b).ReadsBack := by
  cases b
  · exact .name (by decide +kernel) (by decide)
  · exact .name (by decide +kernel) (by decide)

theorem readsBack_dictionary {α : Type} {write : α → Value} (h : ∀ a, (write a).ReadsBack)
    (m : ExtTreeMap String α) : (dictionary write m).ReadsBack := by
  refine .map fun entry hentry => ?_
  obtain ⟨⟨key, a⟩, -, rfl⟩ := List.mem_map.mp hentry
  exact ⟨.text key, h a⟩

end Saves

open Saves

/-- What is written for a snapshot is read back as a value. -/
theorem Snapshot.readsBack_toRon (snap : Snapshot) : snap.toRon.ReadsBack := by
  unfold toRon Value.ofFields
  refine .record (by simp) fun field hfield => ?_
  obtain ⟨⟨name, v⟩, hmem, rfl⟩ := List.mem_map.mp hfield
  simp only [List.mem_cons, Prod.mk.injEq, List.not_mem_nil, or_false] at hmem
  rcases hmem with ⟨rfl, rfl⟩ | ⟨rfl, rfl⟩ | ⟨rfl, rfl⟩ | ⟨rfl, rfl⟩ | ⟨rfl, rfl⟩ | ⟨rfl, rfl⟩ |
    ⟨rfl, rfl⟩ | ⟨rfl, rfl⟩ | ⟨rfl, rfl⟩ | ⟨rfl, rfl⟩ | ⟨rfl, rfl⟩
  all_goals refine ⟨.name (by decide +kernel) (by decide), ?_⟩
  exacts [.text _, .text _, .text _, readsBack_dictionary readsBack_truth _, readsBack_texts _,
    readsBack_dictionary readsBack_texts _, readsBack_dictionary readsBack_texts _,
    readsBack_count _, readsBack_count _, readsBack_texts _,
    readsBack_dictionary readsBack_count _]

/-! ## Reading -/

namespace Reading

variable {node : Node} {α : Type}

theorem texts_of_written {xs : List String} (h : node.value = Saves.texts xs) :
    texts node = some xs := by
  have hlist : Source.list? node = some ((xs.map Value.text).map (node.deeper 2)) := by
    simp only [Source.list?, h, Saves.texts]
  unfold texts list
  rw [hlist, Option.bind_some, List.map_map]
  exact mapM_map_eq_self fun _ _ => rfl

theorem counter_of_written {n : Nat} (hn : n ≤ counterLimit) (h : node.value = count n) :
    counter node = some n := by
  have hnatural : Source.natural? node = some n := by
    simp only [Source.natural?, h, count, whole?_toString, Option.bind_some]
    rfl
  unfold counter
  rw [hnatural, Option.filter_some, if_pos (decide_eq_true hn)]

theorem bool?_of_written {b : Bool} (h : node.value = truth b) :
    Source.bool? node = some b := by
  cases b <;> simp [Source.bool?, h, truth]

/-- A dictionary is read as it is written, if its values are. -/
theorem dictionary_of_written {read : Node → Option α} {write : α → Value}
    {m : ExtTreeMap String α} (h : node.value = Saves.dictionary write m)
    (hread : ∀ (key : String) (a : α), m[key]? = some a →
      ∀ node : Node, node.value = write a → read node = some a) :
    dictionary read node = some m := by
  have hentries : Source.entries? node =
      some (m.toList.map fun entry => (entry.1, node.deeper 2 (write entry.2))) := by
    simp only [Source.entries?, Node.entries?, h, Saves.dictionary]
    exact mapM_map_eq_some fun _ _ => rfl
  have hvalues : (m.toList.map fun entry => (entry.1, node.deeper 2 (write entry.2))).mapM
      (fun entry => do return (entry.1, ← read entry.2)) = some m.toList := by
    refine mapM_map_eq_self fun entry hmem => ?_
    rw [hread entry.1 entry.2 (ExtTreeMap.mem_toList_iff_getElem?_eq_some.mp hmem) _ rfl]
    rfl
  unfold dictionary
  rw [hentries, Option.bind_eq_bind, Option.bind_some, hvalues, Option.bind_eq_bind,
    Option.bind_some, Snapshot.ofList_toList]
  rfl

end Reading

/-- **A file of a saved game** is read as the snapshot that was written to it. -/
theorem Snapshot.ofText?_toText {snap : Snapshot} (h : snap.Counted) :
    ofText? snap.toText = some snap := by
  unfold ofText? toText
  rw [Node.ofText?_toText snap.readsBack_toRon, Option.bind_some]
  generalize hnode : ({ rules := {}, value := snap.toRon } : Node) = node
  have hvalue : node.value = snap.toRon := by
    rw [← hnode]
  have hrules : node.rules.explicitNames = false := by
    rw [← hnode]
  unfold toRon at hvalue
  have htext : ∀ t, Source.text? (node.deeper 2 (.text t)) = some t := fun _ => rfl
  have htexts : ∀ xs, Reading.texts (node.deeper 2 (texts xs)) = some xs :=
    fun _ => Reading.texts_of_written rfl
  have hflags : Reading.dictionary Source.bool? (node.deeper 2 (dictionary truth snap.flags)) =
      some snap.flags :=
    Reading.dictionary_of_written rfl fun _ _ _ _ => Reading.bool?_of_written
  have hholders : ∀ holders, Reading.dictionary Reading.texts
      (node.deeper 2 (dictionary texts holders)) = some holders :=
    fun _ => Reading.dictionary_of_written rfl fun _ _ _ _ => Reading.texts_of_written
  have hscore : Reading.counter (node.deeper 2 (count snap.score)) = some snap.score :=
    Reading.counter_of_written h.score rfl
  have hturns : Reading.counter (node.deeper 2 (count snap.turns)) = some snap.turns :=
    Reading.counter_of_written (Nat.le_of_lt_succ snap.turnCount.toNat_lt) rfl
  have hcount : UInt32.ofNat snap.turns = snap.turnCount := UInt32.ofNat_toNat
  have husage : Reading.dictionary Reading.counter
      (node.deeper 2 (dictionary count snap.lightUsage)) = some snap.lightUsage :=
    Reading.dictionary_of_written rfl fun id used hused _ =>
      Reading.counter_of_written (h.usage id used hused)
  unfold Reading.snapshot
  simp only [Source.record?, Option.bind_eq_bind]
  rw [Node.record?_ofFields hvalue hrules (by simp) (by simp), Option.bind_some]
  simp [Reading.required, List.lookup_cons, htext, htexts, hflags, hholders, hscore, hturns, hcount,
    husage]

/-- A storable state is restored from the file that its snapshot was written to. -/
theorem Snapshot.restore_ofText?_toText {w : World} {s : GameState} (hs : s.Storable w)
    (htext : s.flags.Readable) (hcounted : (s.snapshot w).Counted) :
    (ofText? (s.snapshot w).toText).map (restore w) = some (.ok s) := by
  rw [ofText?_toText hcounted, Option.map_some, restore_snapshot hs htext]

end TextAdventure
