import RegexGolf.Proofs.Completion

/-!
The weighted pass as a whole. It ends by itself: every round retires a word for good, so that there
are no more rounds than different words, and no bound on the rounds is ever met. It goes as the
cover of the table alone goes, although it finds the open positives by matching; so its picks keep
exact accounts, and what it leaves open is what no entry of the table hits.
-/

namespace RegexGolf.Score

open Regex Alternation

def openWords (positives : List String) (free : Open) : Finset String :=
  (((positives.zip free).filter (·.2)).map (·.1)).toFinset

/-- The picks of a pass over a number of positives add up. What a pick covers and leaves open was
open after the pick before it, and each pick has its own score. -/
structure Weighted.Balanced (positives : Nat) (w : Weighted) : Prop where
  each : ∀ earlier pick later, w.picks = earlier ++ pick :: later →
    pick.coverage + pick.remaining = earlier.getLast?.elim positives (·.remaining)
  last : w.uncovered = w.picks.getLast?.elim positives (·.remaining)
  total : (w.picks.map (·.coverage)).sum + w.uncovered = positives
  once : (w.picks.map (·.fragment)).Nodup
  scores : w.scores.entries.Perm (w.picks.map fun p => (p.fragment, p.coverage))

theorem mem_openWords_map {positives : List String} {p : String → Bool} {word : String} :
    word ∈ openWords positives (positives.map p) ↔ word ∈ positives ∧ p word := by
  have pairs : positives.zip (positives.map p) = positives.map fun w => (w, p w) := by
    have both : (positives.map id).zip (positives.map p) = positives.map fun w => (id w, p w) :=
      List.zip_map'
    rwa [List.map_id] at both
  simp only [openWords, pairs, List.mem_toFinset, List.mem_map, List.mem_filter]
  constructor
  · rintro ⟨_, ⟨⟨w, listed, rfl⟩, waits⟩, rfl⟩
    exact ⟨listed, waits⟩
  · rintro ⟨listed, waits⟩
    exact ⟨_, ⟨⟨word, listed, rfl⟩, waits⟩, rfl⟩

namespace Weighted

variable {table : CoverageTable} {positives negatives : List String} {m : Matcher}
  {p q : Progress}

/-- Whatever a round looks up is there: the positive of every hit and its flag, the entries that the
index names, and the entry that is chosen. -/
structure InRange (table : CoverageTable) (positives : List String) (p : Progress) : Prop where
  flags : p.free.length = positives.length
  hits : ∀ e ∈ table, ∀ i ∈ e.hits, i < positives.length
  listed : ∀ row ∈ WordIndex.ofTable table positives p.free, ∀ k ∈ row.2, k < table.length
  chosen : ∀ c, choose (table.map fun e => p.free.count e.hits).toArray
    (WordIndex.ofTable table positives p.free).hardest = some c → c.entry < table.length

theorem Faithful.length_free (h : Faithful table positives p) :
    p.free.length = positives.length := by
  rw [h.free, List.length_map]

theorem Faithful.inRange (h : Faithful table positives p)
    (truth : Coverage.Truthful table positives negatives) : InRange table positives p where
  flags := h.length_free
  hits e listed i hit := by
    obtain ⟨word, place, -⟩ := (truth.mem_hits listed).1 hit
    exact (List.getElem?_eq_some_iff.1 place).1
  listed := (WordIndex.ordered_ofTable table).below
  chosen c some := by
    obtain ⟨e, -, place, -⟩ := mem_of_choose_eq_some some
    exact (List.getElem?_eq_some_iff.1 place).1

theorem Faithful.mem_openWords (h : Faithful table positives p) {word : String} :
    word ∈ openWords positives p.free ↔
      word ∈ positives ∧ ∀ f ∈ p.alternation, ¬accepts f word := by
  rw [h.free, mem_openWords_map, Bool.not_eq_true', List.any_eq_false]

theorem Faithful.has_iff_of_closed (h : Faithful table positives p)
    (truth : Coverage.Truthful table positives negatives)
    (closed : ∀ e ∈ table, ∀ i ∈ e.hits, ¬p.free.has i) {i : Nat} :
    p.free.has i ↔ i < positives.length ∧ ∀ e ∈ table, i ∉ e.hits := by
  constructor
  · intro isOpen
    exact ⟨((h.has_iff truth).1 isOpen).1, fun e listed hit => closed e listed i hit isOpen⟩
  · rintro ⟨inside, missed⟩
    exact (h.has_iff truth).2 ⟨inside, fun e listed _ => missed e listed⟩

theorem Faithful.size_of_closed (h : Faithful table positives p)
    (truth : Coverage.Truthful table positives negatives)
    (closed : ∀ e ∈ table, ∀ i ∈ e.hits, ¬p.free.has i) :
    p.free.size =
      (List.range positives.length).countP fun i => !table.any fun e => e.hits.contains i := by
  rw [Open.size_eq_countP_range, h.length_free]
  apply List.countP_congr
  intro i listed
  rw [h.has_iff_of_closed truth closed, Bool.not_eq_true', List.any_eq_false]
  simp [List.mem_range.1 listed]

section

variable (truth : Coverage.Truthful table positives negatives)
  (agrees : Agrees positives.length (table.map (·.fragment)))

include truth agrees

theorem Faithful.openWords_ssubset_of_agrees (h : Faithful table positives p)
    (leads : Leads table positives p q) :
    openWords positives q.free ⊂ openWords positives p.free := by
  obtain ⟨h', pick, picks, next⟩ := h.step truth agrees leads
  obtain ⟨e, picked⟩ := TableCover.picks_of_next next
  have newest : q.alternation = e.fragment :: p.alternation := by
    rw [← h'.named, picks, List.map_cons, h.named, picked.fragment]
  obtain ⟨i, hit, isOpen⟩ := Open.count_pos.1 (picked.coverage ▸ picked.covers)
  obtain ⟨word, place, accepted⟩ := (truth.mem_hits picked.listed).1 hit
  have listed : word ∈ positives := List.mem_of_getElem? place
  rw [Finset.ssubset_iff_of_subset]
  · refine ⟨word, h.mem_openWords.2 ⟨listed, fun f old matched => ?_⟩, fun still => ?_⟩
    · obtain ⟨d, among, rfl⟩ := List.mem_map.1 (h.among f old)
      have struck := (truth.mem_hits among).2 ⟨word, place, matched⟩
      exact ((h.has_iff truth).1 isOpen).2 d among old struck
    · exact (h'.mem_openWords.1 still).2 e.fragment (newest ▸ .head _) accepted
  · intro w waits
    obtain ⟨member, unmatched⟩ := h'.mem_openWords.1 waits
    refine h.mem_openWords.2 ⟨member, fun f old => unmatched f ?_⟩
    rw [newest]
    exact .tail _ old

theorem length_picks_le_of_agrees (honest : m.Honest)
    (reaches : Reaches table positives (start positives m) p) :
    p.picks.length + (openWords positives p.free).card ≤ positives.toFinset.card := by
  have first := faithful_start table positives honest
  induction reaches with
  | refl =>
    rw [start, List.length_nil, Nat.zero_add]
    refine Finset.card_le_card fun word waits => List.mem_toFinset.2 ?_
    exact (first.mem_openWords.1 waits).1
  | tail earlier leads ih =>
    have h := first.steps truth agrees earlier
    obtain ⟨-, pick, picks, -⟩ := h.step truth agrees leads
    have fewer := Finset.card_lt_card (h.openWords_ssubset_of_agrees truth agrees leads)
    rw [picks, List.length_cons]
    omega

end

section

variable (truth : Coverage.Truthful table positives negatives)
  (unites : Unites positives.length (table.map (·.fragment)))

include truth unites

theorem Faithful.openWords_ssubset (h : Faithful table positives p)
    (leads : Leads table positives p q) :
    openWords positives q.free ⊂ openWords positives p.free :=
  h.openWords_ssubset_of_agrees truth unites.agrees leads

theorem length_picks_le (honest : m.Honest)
    (reaches : Reaches table positives (start positives m) p) :
    p.picks.length + (openWords positives p.free).card ≤ positives.toFinset.card :=
  length_picks_le_of_agrees truth unites.agrees honest reaches

theorem Faithful.finish_of_reaches (h : Faithful table positives p)
    (reaches : Reaches table positives p q) (finished : Finished table positives q) :
    (⟨q.picks.reverse, q.free.size, false⟩ : Weighted) =
      { TableCover.finish table positives p.free with
        picks := p.picks.reverse ++ (TableCover.finish table positives p.free).picks } := by
  -- Induction from the front, where the cover of the table recurses.
  induction reaches using Relation.ReflTransGen.head_induction_on with
  | refl =>
    rcases finished with done | stuck
    · rw [TableCover.finish_of_size_eq_zero done, done, List.append_nil]
    · rw [TableCover.finish_of_next_eq_none (round_eq_none_iff_next.1 stuck), List.append_nil]
  | head leads _ ih =>
    obtain ⟨h', pick, picks, next⟩ := h.next_of_leads truth unites leads
    rw [ih h', TableCover.finish_of_next next, picks, List.reverse_cons, List.append_assoc,
      List.singleton_append]

end

end Weighted

theorem balanced_cover {table : CoverageTable} {positives negatives : List String}
    (truth : Coverage.Truthful table positives negatives)
    (once : ((TableCover.cover table positives).picks.map (·.fragment)).Nodup) :
    (TableCover.cover table positives).Balanced positives.length := by
  have accounts := TableCover.accounts_finish truth fun _ => true
  rw [List.map_const', Open.size_replicate, ← TableCover.cover] at accounts
  refine ⟨fun earlier pick later split => ?_, accounts.uncovered.symm, accounts.sum_coverage, once,
    Pool.perm_entries_ofList ?_⟩
  · rw [split] at accounts
    exact accounts.coverage_add_remaining
  · simpa [Function.comp_def] using once

theorem tableOf_letters :
    Synthesis.tableOf ⟨["a", "a", "b"], ["c"]⟩ ⟨1, false, false⟩ =
      .ok [⟨"a", [0, 1]⟩, ⟨"b", [2]⟩] := by decide +kernel

theorem unites_letters : Unites 3 ["a", "b"] :=
  Synthesis.unites_tableOf (by decide) tableOf_letters
    (leavesRoom_of_choices [['a'], ['b']] (by decide) (by decide +kernel))

/-- The weighted pass on the table of any pool. Before every round all that it looks up is there;
every round retires a word; and the pass reaches its end after no more picks than there are
different words, none of them made twice. -/
theorem weighted_ends (pool : Pool) (positives negatives : List String) (table : CoverageTable)
    (m : Matcher) (built : Coverage.table pool positives negatives = .ok table)
    (unites : Unites positives.length (table.map (·.fragment))) (honest : m.Honest) :
    (∀ p, Weighted.Reaches table positives (Weighted.start positives m) p →
      Weighted.InRange table positives p ∧ (p.picks.map (·.fragment)).Nodup ∧
      (Weighted.Finished table positives p ∨ ∃ q, Weighted.Leads table positives p q) ∧
      ∀ q, Weighted.Leads table positives p q → (∃ pick, q.picks = pick :: p.picks) ∧
        openWords positives q.free ⊂ openWords positives p.free) ∧
    ∃ q, Weighted.Reaches table positives (Weighted.start positives m) q ∧
      Weighted.Finished table positives q ∧ q.picks.length ≤ positives.toFinset.card ∧
      ∃ w m', weighted table positives m = .ok (w, m') ∧ w.picks = q.picks.reverse ∧
        w.uncovered = q.free.size ∧ w.exhausted = false ∧
        (w.converged ↔ ∀ i < positives.length, ∃ e ∈ table, i ∈ e.hits) ∧
        w.uncovered =
          (List.range positives.length).countP fun i => !table.any fun e => e.hits.contains i := by
  have truth := Coverage.truthful_table built
  have first := Weighted.faithful_start table positives honest
  constructor
  · intro p reaches
    have h := first.of_reaches truth unites reaches
    refine ⟨h.inRange truth, h.named ▸ h.once, h.finished_or_leads truth unites, fun q leads => ?_⟩
    obtain ⟨-, pick, picks, -⟩ := h.next_of_leads truth unites leads
    exact ⟨⟨pick, picks⟩, h.openWords_ssubset truth unites leads⟩
  · obtain ⟨q, reaches, finished, ends⟩ := weighted_eq_of_truthful truth honest unites
    have h := first.of_reaches truth unites reaches
    have closed := finished.not_has
    have few := Weighted.length_picks_le truth unites honest reaches
    have size := h.size_of_closed truth closed
    refine ⟨q, reaches, finished, by omega, _, _, ends, rfl, rfl, rfl, ?_, size⟩
    rw [Weighted.converged, beq_iff_eq, size, List.countP_eq_zero]
    simp

theorem weighted_ends_letters :
    ∃ w m', weighted [⟨"a", [0, 1]⟩, ⟨"b", [2]⟩] ["a", "a", "b"] .empty = .ok (w, m') ∧
      w.picks.length ≤ 2 ∧ w.converged := by
  obtain ⟨-, q, -, -, few, w, m', ends, picks, -, -, converged, -⟩ :=
    weighted_ends _ ["a", "a", "b"] ["c"] _ .empty tableOf_letters unites_letters
      Matcher.honest_empty
  exact ⟨w, m', ends, by simpa [picks] using few, converged.2 (by decide)⟩

/-- The weighted pass is the cover of the table, of which it never asks what the entries hit. -/
theorem weighted_eq_cover (pool : Pool) (positives negatives : List String)
    (table : CoverageTable) (m : Matcher)
    (built : Coverage.table pool positives negatives = .ok table)
    (unites : Unites positives.length (table.map (·.fragment))) (honest : m.Honest) :
    (∀ p q, Weighted.Reaches table positives (Weighted.start positives m) p →
      Weighted.Leads table positives p q →
      ∃ r, parse (join (q.picks.map (·.fragment))) = .ok r ∧
        q.free = positives.map (fun word => !r.isMatch word) ∧
        ∀ i, q.free.has i ↔ i < positives.length ∧
          ∀ e ∈ table, e.fragment ∈ q.picks.map (·.fragment) → i ∉ e.hits) ∧
    ∃ m', weighted table positives m = .ok (TableCover.cover table positives, m') ∧
      (TableCover.cover table positives).Balanced positives.length := by
  have truth := Coverage.truthful_table built
  have first := Weighted.faithful_start table positives honest
  constructor
  · intro p q reaches leads
    obtain ⟨h, pick, picks, -⟩ :=
      (first.of_reaches truth unites reaches).next_of_leads truth unites leads
    have some : q.alternation ≠ [] := by
      rw [← h.named, picks]
      simp
    obtain ⟨r, read, meaning⟩ :=
      unites q.alternation some h.once (Nat.le_of_add_right_le h.few) h.among
    rw [h.named]
    exact ⟨r, read, by simp only [meaning, h.free], fun i => h.has_iff truth⟩
  · obtain ⟨q, reaches, finished, ends⟩ := weighted_eq_of_truthful truth honest unites
    have h := first.of_reaches truth unites reaches
    have same := first.finish_of_reaches truth unites reaches finished
    have picks : q.picks.reverse = (TableCover.cover table positives).picks :=
      congrArg Weighted.picks same
    have once : ((TableCover.cover table positives).picks.map (·.fragment)).Nodup := by
      rw [← picks, List.map_reverse, List.nodup_reverse, h.named]
      exact h.once
    exact ⟨q.matcher, by rw [ends, same]; rfl, balanced_cover truth once⟩

theorem weighted_eq_cover_letters :
    ∃ w m', weighted [⟨"a", [0, 1]⟩, ⟨"b", [2]⟩] ["a", "a", "b"] .empty = .ok (w, m') ∧
      w = TableCover.cover [⟨"a", [0, 1]⟩, ⟨"b", [2]⟩] ["a", "a", "b"] ∧
      (w.picks.map (·.coverage)).sum + w.uncovered = 3 := by
  obtain ⟨-, m', ends, balanced⟩ :=
    weighted_eq_cover _ ["a", "a", "b"] ["c"] _ .empty tableOf_letters unites_letters
      Matcher.honest_empty
  exact ⟨_, m', ends, rfl, balanced.total⟩

end RegexGolf.Score
