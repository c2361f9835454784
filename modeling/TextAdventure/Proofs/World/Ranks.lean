import TextAdventure.Proofs.World.Coherent

/-!
# Ranks and what they are earned with

The ranks of a world are written in any order and kept with the highest threshold first. The search
through the kept table gives the best rank that a percentage reaches, and the first of those that
are written with its threshold; a percentage that reaches none earns the lowest rank, and of those
with its threshold the last one written (`rank_earned`).

* **stability** — ranks with one threshold stay in their order (`filter_ranksDescending`);
* **order** — the kept table descends, as the check has seen to it that thresholds are numbers
  (`descending_ranksDescending`).
-/

namespace TextAdventure

open Authored (Rank)

variable {rank : Rank} {ranks table : List Rank} {percent : Single} {k : Int}

/-- The place of a rank in the order of thresholds. -/
def Authored.Rank.place (rank : Rank) : Int := rank.threshold.key

/-- All thresholds are numbers. -/
def Numbered (ranks : List Rank) : Prop := ∀ r ∈ ranks, r.threshold.isNaN = false

/-! ## One rank into the table -/

theorem mem_insertRank {r : Rank} : r ∈ insertRank rank table ↔ r = rank ∨ r ∈ table := by
  rw [(insertRank_perm rank table).mem_iff, List.mem_cons]

/-- Among ranks with one threshold a new one is put in front, whatever the table looks like. -/
theorem filter_insertRank :
    (insertRank rank table).filter (·.place = k) = (rank :: table).filter (·.place = k) := by
  induction table with
  | nil => rfl
  | cons lowest rest ih =>
    unfold insertRank
    split
    · rename_i hlt
      have hless : lowest.place < rank.place := by
        unfold Single.lt at hlt
        simp only [Bool.and_eq_true, decide_eq_true_iff] at hlt
        exact hlt.2
      by_cases hlowest : lowest.place = k
      · have hrank : ¬rank.place = k := by omega
        simp [hlowest, hrank, ih]
      · by_cases hrank : rank.place = k <;> simp [hlowest, hrank, ih]
    · rfl

theorem ascending_insertRank (hrank : rank.threshold.isNaN = false) (hnumbers : Numbered table)
    (h : table.Pairwise fun r r' => r.place ≤ r'.place) :
    (insertRank rank table).Pairwise fun r r' => r.place ≤ r'.place := by
  induction table with
  | nil => exact List.pairwise_singleton ..
  | cons lowest rest ih =>
    obtain ⟨hlowest, hrest⟩ := List.pairwise_cons.mp h
    have hless := Single.lt_iff_key_lt (hnumbers lowest (List.mem_cons_self ..)) hrank
    unfold insertRank
    split
    · rename_i hlt
      refine List.pairwise_cons.mpr ⟨fun r hr => ?_, ih (fun r hr => ?_) hrest⟩
      · rcases mem_insertRank.mp hr with rfl | hr
        · exact Int.le_of_lt (hless.mp hlt)
        · exact hlowest r hr
      · exact hnumbers r (List.mem_cons_of_mem _ hr)
    · rename_i hlt
      have hle : rank.place ≤ lowest.place := Int.not_lt.mp fun hkey => hlt (hless.mpr hkey)
      refine List.pairwise_cons.mpr ⟨fun r hr => ?_, h⟩
      rcases List.mem_cons.mp hr with rfl | hr
      · exact hle
      · exact Int.le_trans hle (hlowest r hr)

/-! ## The kept table -/

/-- Putting ranks into a table one after the other. -/
theorem filter_foldl_insertRank :
    (ranks.foldl (fun table rank => insertRank rank table) table).filter (·.place = k) =
      (ranks.filter (·.place = k)).reverse ++ table.filter (·.place = k) := by
  induction ranks generalizing table with
  | nil => rfl
  | cons rank rest ih =>
    rw [List.foldl_cons, ih, filter_insertRank]
    by_cases hrank : rank.place = k <;> simp [hrank]

theorem mem_foldl_insertRank {r : Rank} :
    r ∈ ranks.foldl (fun table rank => insertRank rank table) table ↔ r ∈ ranks ∨ r ∈ table := by
  induction ranks generalizing table with
  | nil => simp
  | cons rank rest ih =>
    rw [List.foldl_cons, ih, mem_insertRank, List.mem_cons]
    tauto

theorem ascending_foldl_insertRank (hranks : Numbered ranks) (htable : Numbered table)
    (h : table.Pairwise fun r r' => r.place ≤ r'.place) :
    (ranks.foldl (fun table rank => insertRank rank table) table).Pairwise
      fun r r' => r.place ≤ r'.place := by
  induction ranks generalizing table with
  | nil => exact h
  | cons rank rest ih =>
    have hrank : rank.threshold.isNaN = false := hranks rank (List.mem_cons_self ..)
    refine ih (fun r hr => hranks r (List.mem_cons_of_mem _ hr)) (fun r hr => ?_)
      (ascending_insertRank hrank htable h)
    rcases mem_insertRank.mp hr with rfl | hr
    · exact hrank
    · exact htable r hr

theorem mem_ranksDescending {r : Rank} : r ∈ ranksDescending ranks ↔ r ∈ ranks := by
  unfold ranksDescending
  rw [List.mem_reverse, mem_foldl_insertRank]
  simp

/-- Ranks with one threshold are kept in the order in which they are written. -/
theorem filter_ranksDescending :
    (ranksDescending ranks).filter (·.place = k) = ranks.filter (·.place = k) := by
  unfold ranksDescending
  rw [List.filter_reverse, filter_foldl_insertRank]
  simp

theorem descending_ranksDescending (h : Numbered ranks) :
    (ranksDescending ranks).Pairwise fun r r' => r'.place ≤ r.place := by
  unfold ranksDescending
  rw [List.pairwise_reverse]
  exact ascending_foldl_insertRank h (fun _ hr => nomatch hr) .nil

/-! ## The rank that is earned -/

/-- The percentage reaches the rank and none that is better, and no other rank with the same
threshold is written before it. -/
def IsBest (ranks : List Rank) (percent : Single) (rank : Rank) : Prop :=
  rank.threshold.le percent = true ∧ ∃ before after, ranks = before ++ rank :: after ∧
    (∀ r ∈ before, r.threshold.le percent = true → r.threshold.lt rank.threshold = true) ∧
    ∀ r ∈ after, r.threshold.le percent = true → r.threshold.le rank.threshold = true

/-- No rank is lower, and no other one with the same threshold is written after it. -/
def IsLowest (ranks : List Rank) (rank : Rank) : Prop :=
  ∃ before after, ranks = before ++ rank :: after ∧
    (∀ r ∈ before, rank.threshold.le r.threshold = true) ∧
    ∀ r ∈ after, rank.threshold.lt r.threshold = true

/-- A rank that is the first with its threshold in the kept table is written as the first. -/
theorem exists_first {front back : List Rank}
    (htable : ranksDescending ranks = front ++ rank :: back)
    (hfront : ∀ r ∈ front, r.place ≠ rank.place) :
    ∃ before after, ranks = before ++ rank :: after ∧ ∀ r ∈ before, r.place ≠ rank.place := by
  have hnone : front.filter (·.place = rank.place) = [] :=
    List.filter_eq_nil_iff.mpr fun r hr heq => hfront r hr (of_decide_eq_true heq)
  have hequals : ranks.filter (·.place = rank.place) =
      rank :: back.filter (·.place = rank.place) := by
    rw [← filter_ranksDescending, htable, List.filter_append, hnone]
    simp
  obtain ⟨before, after, rfl, hbefore, -, -⟩ := List.filter_eq_cons_iff.mp hequals
  exact ⟨before, after, rfl, fun r hr heq => hbefore r hr (decide_eq_true heq)⟩

/-- The last rank of the kept table is written as the last with its threshold. -/
theorem exists_last {others : List Rank} (htable : ranksDescending ranks = others ++ [rank]) :
    ∃ before after, ranks = before ++ rank :: after ∧ ∀ r ∈ after, r.place ≠ rank.place := by
  have hequals : ranks.filter (·.place = rank.place) =
      others.filter (·.place = rank.place) ++ [rank] := by
    rw [← filter_ranksDescending, htable, List.filter_append]
    simp
  obtain ⟨front, back, rfl, -, hback⟩ := List.filter_eq_append_iff.mp hequals
  obtain ⟨before, after, rfl, -, -, hafter⟩ := List.filter_eq_cons_iff.mp hback
  refine ⟨front ++ before, after, (List.append_assoc ..).symm, fun r hr heq => ?_⟩
  exact List.filter_eq_nil_iff.mp hafter r hr (decide_eq_true heq)

/-- What the percentage reaches of the kept table stands behind the first rank that it reaches. -/
theorem place_le_of_find? (hnumbers : Numbered ranks) {front back : List Rank}
    (htable : ranksDescending ranks = front ++ rank :: back)
    (hfront : ∀ r ∈ front, r.threshold.le percent = false) {r : Rank} (hr : r ∈ ranks)
    (hreached : r.threshold.le percent = true) : r.place ≤ rank.place := by
  have hdescending := descending_ranksDescending hnumbers
  have hmem := mem_ranksDescending.mpr hr
  rw [htable] at hdescending hmem
  rcases List.mem_append.mp hmem with hmem | hmem
  · rw [hfront r hmem] at hreached
    cases hreached
  · rcases List.mem_cons.mp hmem with rfl | hmem
    · exact Int.le_refl _
    · exact List.rel_of_pairwise_cons (List.pairwise_append.mp hdescending).2.1 hmem

theorem le_of_place_eq {r r' : Rank} (hr : r.threshold.isNaN = false)
    (hr' : r'.threshold.isNaN = false) (h : r.place = r'.place) :
    r.threshold.le percent = r'.threshold.le percent := by
  have hkey : r.threshold.key = r'.threshold.key := h
  unfold Single.le
  rw [hr, hr', hkey]

/-- The first rank that is reached of the kept table is the best one. -/
theorem isBest_of_find? (hnumbers : Numbered ranks)
    (h : (ranksDescending ranks).find? (·.threshold.le percent) = some rank) :
    IsBest ranks percent rank := by
  obtain ⟨hreached, front, back, htable, hfront⟩ := List.find?_eq_some_iff_append.mp h
  have hmem : rank ∈ ranks := mem_ranksDescending.mp (htable ▸ by simp)
  have hnot : ∀ r ∈ front, r.threshold.le percent = false := fun r hr => by simpa using hfront r hr
  have hplace : ∀ r ∈ ranks, r.threshold.le percent = true → r.place ≤ rank.place :=
    fun r hr => place_le_of_find? hnumbers htable hnot hr
  have hdiffer : ∀ r ∈ front, r.place ≠ rank.place := by
    intro r hr heq
    have hr' : r ∈ ranks := mem_ranksDescending.mp (htable ▸ List.mem_append_left _ hr)
    have hsame : r.threshold.le percent = rank.threshold.le percent :=
      le_of_place_eq (hnumbers r hr') (hnumbers rank hmem) heq
    rw [hnot r hr, hreached] at hsame
    cases hsame
  obtain ⟨before, after, hranks, hbefore⟩ := exists_first htable hdiffer
  have hwithin : ∀ r ∈ before ++ rank :: after, r ∈ ranks := fun r hr => hranks ▸ hr
  refine ⟨hreached, before, after, hranks, fun r hr hle => ?_, fun r hr hle => ?_⟩
  · have hr' := hwithin r (List.mem_append_left _ hr)
    rw [Single.lt_iff_key_lt (hnumbers r hr') (hnumbers rank hmem)]
    exact Int.lt_iff_le_and_ne.mpr ⟨hplace r hr' hle, hbefore r hr⟩
  · have hr' := hwithin r (List.mem_append_right _ (List.mem_cons_of_mem _ hr))
    rw [Single.le_iff_key_le (hnumbers r hr') (hnumbers rank hmem)]
    exact hplace r hr' hle

/-- The last rank of the kept table is the lowest one. -/
theorem isLowest_of_getLast? (hnumbers : Numbered ranks)
    (h : (ranksDescending ranks).getLast? = some rank) : IsLowest ranks rank := by
  obtain ⟨others, htable⟩ := List.getLast?_eq_some_iff.mp h
  have hmem : rank ∈ ranks := mem_ranksDescending.mp (htable ▸ by simp)
  have hplace : ∀ r ∈ ranks, rank.place ≤ r.place := by
    intro r hr
    have hdescending := descending_ranksDescending hnumbers
    have hr' := mem_ranksDescending.mpr hr
    rw [htable] at hdescending hr'
    rcases List.mem_append.mp hr' with hr' | hr'
    · exact (List.pairwise_append.mp hdescending).2.2 r hr' rank (List.mem_singleton_self _)
    · obtain rfl := List.mem_singleton.mp hr'
      exact Int.le_refl _
  obtain ⟨before, after, hranks, hafter⟩ := exists_last htable
  have hwithin : ∀ r ∈ before ++ rank :: after, r ∈ ranks := fun r hr => hranks ▸ hr
  refine ⟨before, after, hranks, fun r hr => ?_, fun r hr => ?_⟩
  · have hr' := hwithin r (List.mem_append_left _ hr)
    rw [Single.le_iff_key_le (hnumbers rank hmem) (hnumbers r hr')]
    exact hplace r hr'
  · have hr' := hwithin r (List.mem_append_right _ (List.mem_cons_of_mem _ hr))
    rw [Single.lt_iff_key_lt (hnumbers rank hmem) (hnumbers r hr')]
    exact Int.lt_iff_le_and_ne.mpr ⟨hplace r hr', (hafter r hr).symm⟩

/-! ## In a compiled world -/

namespace World

variable {a : Authored.World} {w : World}

/-- The ranks are kept as they are sorted. -/
theorem ranks_of_resolved (h : World.ofAuthored a = .ok w) :
    w.scoring.ranks = ranksDescending a.game.scoring.ranks := by
  unfold World.ofAuthored at h
  simp only [bind_eq_ok, pure_eq_ok] at h
  obtain ⟨scenes, -, objects, -, rfl⟩ := h
  rfl

/-- The check sees to it that there are ranks and that their thresholds are numbers. -/
theorem ranks_of_faultless (ha : a.Faultless) :
    a.game.scoring.ranks ≠ [] ∧ Numbered a.game.scoring.ranks := by
  have hgame := ha.game
  unfold Authored.gameFaults Authored.scoringFaults at hgame
  simp only [List.append_eq_nil_iff, List.flatMap_eq_nil_iff] at hgame
  obtain ⟨-, ⟨⟨hsome, hrange⟩, -⟩, -⟩ := hgame
  refine ⟨fun hnone => ?_, fun r hr => ?_⟩
  · simp [hnone] at hsome
  · have hthreshold := hrange r hr
    split at hthreshold
    · rename_i hwithin
      simp only [Bool.and_eq_true, Single.le, Bool.not_eq_true'] at hwithin
      exact hwithin.1.1.2
    · cases hthreshold

/-- **The rank that is earned.** In a compiled world every percentage earns a rank. If it reaches
the threshold of one, this is the best of those it reaches, and the first written with its
threshold; otherwise it is the last of the kept table, the lowest rank of all and the last written
with its threshold. -/
theorem rank_earned (h : World.compile a = .ok w) (percent : Single) :
    ∃ rank, rankFor w.scoring.ranks percent = some rank ∧
      ((∃ r ∈ a.game.scoring.ranks, r.threshold.le percent = true) →
        IsBest a.game.scoring.ranks percent rank) ∧
      ((∀ r ∈ a.game.scoring.ranks, r.threshold.le percent = false) →
        w.scoring.ranks.getLast? = some rank ∧ IsLowest a.game.scoring.ranks rank) := by
  obtain ⟨hfaults, hresolved⟩ := compile_eq_ok h
  obtain ⟨hne, hnumbers⟩ := ranks_of_faultless (Authored.World.faultless hfaults)
  rw [ranks_of_resolved hresolved]
  unfold rankFor
  cases hfind : (ranksDescending a.game.scoring.ranks).find? (·.threshold.le percent) with
  | some rank =>
    refine ⟨rank, rfl, fun _ => isBest_of_find? hnumbers hfind, fun hnone => ?_⟩
    have hreached := List.find?_some hfind
    have hmem : rank ∈ a.game.scoring.ranks :=
      mem_ranksDescending.mp (List.mem_of_find?_eq_some hfind)
    rw [hnone rank hmem] at hreached
    cases hreached
  | none =>
    have hnone := List.find?_eq_none.mp hfind
    obtain ⟨r, hr⟩ := List.exists_mem_of_ne_nil _ hne
    have htable : ranksDescending a.game.scoring.ranks ≠ [] :=
      List.ne_nil_of_mem (mem_ranksDescending.mpr hr)
    obtain ⟨rank, hlast⟩ := Option.isSome_iff_exists.mp (List.getLast?_isSome.mpr htable)
    refine ⟨rank, by rw [hlast]; rfl, fun hreached => ?_, fun _ => ?_⟩
    · obtain ⟨r, hr, hle⟩ := hreached
      exact absurd hle (hnone r (mem_ranksDescending.mpr hr))
    · exact ⟨hlast, isLowest_of_getLast? hnumbers hlast⟩

def piper : Rank := { threshold := .ofNat 50, name := "Piper", description := "" }

def whistler : Rank := { threshold := .ofNat 20, name := "Whistler", description := "" }

/-- Ranks out of order, with thresholds that are shared and none that is zero. -/
def paradeRanks : List Rank := [
  { threshold := .ofNat 20, name := "Drummer", description := "" }, piper,
  { threshold := .ofNat 90, name := "Marshal", description := "" },
  { threshold := .ofNat 50, name := "Bugler", description := "" }, whistler]

def parade : Authored.World where
  game := { title := "Parade", startScene := "street", scoring := { ranks := paradeRanks } }
  scenes := [{ id := "street", name := "Street", lit := true, desc := { text := "A street." } }]

/-- Sixty percent make a piper, who is written before the bugler, and ten percent a whistler. -/
theorem parade_ranks : ∃ w, World.compile parade = .ok w ∧
    rankFor w.scoring.ranks (.ofNat 60) = some piper ∧ IsBest paradeRanks (.ofNat 60) piper ∧
    rankFor w.scoring.ranks (.ofNat 10) = some whistler ∧ IsLowest paradeRanks whistler := by
  obtain ⟨w, hw⟩ : ∃ w, World.compile parade = .ok w := isOk_iff.mp (by decide +kernel)
  obtain ⟨rank, hrank, hbest, -⟩ := rank_earned hw (.ofNat 60)
  obtain ⟨rank', hrank', -, hlowest⟩ := rank_earned hw (.ofNat 10)
  have hpiper : rankFor w.scoring.ranks (.ofNat 60) = some piper := by
    rw [ranks_of_resolved (compile_eq_ok hw).2]
    decide +kernel
  have hwhistler : rankFor w.scoring.ranks (.ofNat 10) = some whistler := by
    rw [ranks_of_resolved (compile_eq_ok hw).2]
    decide +kernel
  obtain rfl := Option.some.inj (hrank.symm.trans hpiper)
  obtain rfl := Option.some.inj (hrank'.symm.trans hwhistler)
  have hreached : ∃ r ∈ paradeRanks, r.threshold.le (.ofNat 60) = true := by decide +kernel
  have hnone : ∀ r ∈ paradeRanks, r.threshold.le (.ofNat 10) = false := by decide +kernel
  exact ⟨w, hw, hpiper, hbest hreached, hwhistler, (hlowest hnone).2⟩

end World

end TextAdventure
