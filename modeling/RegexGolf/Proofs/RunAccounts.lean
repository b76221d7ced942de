import RegexGolf.Proofs.WeightedPass
import RegexGolf.Proofs.WildcardSets

/-!
The numbers that a run reports, and its candidates. The pools grow by widening and shrink by
sifting; the candidates are the scored fragments, once each and best first; and the parts of the
pattern are taken from them in that order. Simple scoring makes a candidate of every entry of the
table, weighted scoring of every pick, of which there are no more than entries or different words.
-/

namespace RegexGolf

open Regex Alternation

theorem Pool.length_keys (p : Pool) : p.keys.length = p.size := List.length_map _

theorem Pool.size_le_of_subset {p q : Pool} (subset : ∀ f ∈ p.keys, f ∈ q.keys) :
    p.size ≤ q.size := by
  rw [← length_keys, ← length_keys]
  exact (p.nodup_keys.subperm subset).length_le

theorem Pool.size_ofList {l : List (String × Nat)} (once : (l.map (·.1)).Nodup) :
    (ofList l).size = l.length := (perm_entries_ofList once).length_eq

namespace Score

section

variable {table : CoverageTable} {positives negatives : List String}
  (truth : Coverage.Truthful table positives negatives)

include truth

theorem size_simple : (simple table positives.length).size = table.length := by
  rw [simple_eq_ofList, Pool.size_ofList, List.length_map]
  simpa [Function.comp_def] using truth.once

theorem score_of_mem_simple {c : String × Nat}
    (listed : c ∈ (simple table positives.length).entries) :
    c.2 = positives.countP (accepts c.1) := by
  have given := Pool.score?_eq_some_iff.2 listed
  rw [score?_simple_of_truthful truth] at given
  split at given
  · exact (Option.some.inj given).symm
  · cases given

theorem picks_of_weighted (agrees : Agrees positives.length (table.map (·.fragment)))
    {m m' : Matcher} (h : m.Honest) {w : Weighted}
    (ends : weighted table positives m = .ok (w, m')) :
    (w.picks.map (·.fragment)).Nodup ∧ w.picks.length ≤ table.length ∧
      w.picks.length ≤ positives.toFinset.card := by
  obtain ⟨q, reaches, faithful, -, rfl⟩ := exists_last_of_weighted truth h agrees ends
  have once : (q.picks.map (·.fragment)).Nodup := faithful.named ▸ faithful.once
  have among : ∀ f ∈ q.picks.map (·.fragment), f ∈ table.map (·.fragment) :=
    faithful.named ▸ faithful.among
  have few := (once.subperm among).length_le
  have retired := Weighted.length_picks_le_of_agrees truth agrees h reaches
  rw [List.length_map, List.length_map] at few
  simp only [List.map_reverse, List.nodup_reverse, List.length_reverse]
  exact ⟨once, few, by omega⟩

end

theorem Weighted.perm_scores {w : Weighted} (once : (w.picks.map (·.fragment)).Nodup) :
    w.scores.entries.Perm (w.picks.map fun p => (p.fragment, p.coverage)) :=
  Pool.perm_entries_ofList (by simpa [Function.comp_def] using once)

end Score

namespace Synthesis

variable {lists : WordLists} {options : Options} {s : Synthesis}

theorem size_le_size_space (c : Cutting) (words : List String) :
    (Fragment.ofWords c words).size ≤ (Fragment.space c words).size :=
  Pool.size_le_of_subset fun _ listed => Fragment.mem_keys_expand_of_mem listed

theorem length_le_size_space {cutting : Cutting} {table : CoverageTable}
    (ends : tableOf lists cutting = .ok table) :
    table.length ≤ (Fragment.space cutting lists.positives).size := by
  obtain ⟨-, rfl⟩ := Coverage.ofFragments_eq_ok ends
  rw [List.length_map, ← Pool.length_keys]
  exact List.length_filter_le _ _

theorem perm_candidates (s : Synthesis) : s.candidates.Perm s.scoring.scores.entries :=
  s.scoring.scores.perm_ranked

/-- What a run that ends has done: it has counted its pools, scored its table, and built the cover
that a scan of the candidates gives. -/
theorem stages_of_run (ran : run lists options = .ok s) :
    s.generated = (Fragment.ofWords options.cutting lists.positives).size ∧
    s.expanded = (Fragment.space options.cutting lists.positives).size ∧
    ∃ table m, tableOf lists options.cutting = .ok table ∧ s.filtered = table.length ∧
      score options.strategy table lists.positives .empty = .ok (s.scoring, m) ∧
      s.cover = Cover.scan lists.negatives lists.positives s.candidates := by
  obtain ⟨table, scoring, m₁, cover, m₂, m₃, ends, scored, built, -, eq⟩ := run_eq_ok_iff.1 ran
  have agrees := agrees_tableOf ends
  have honest := (sound_score _ _ _ Matcher.honest_empty).honest _ _ scored
  have reached :=
    reached_of_score (Coverage.truthful_table ends) Matcher.honest_empty agrees scored
  have scanned := Cover.eq_scan_of_build lists.negatives scoring.scores
    (reached.readable (parse_of_mem_tableOf ends)) (agrees.of_subset reached.among) honest built
  rw [eq]
  exact ⟨rfl, rfl, table, m₁, ends, rfl, scored, scanned⟩

theorem simple_of_run {cutting : Cutting} (ran : run lists ⟨.simple, cutting⟩ = .ok s) :
    s.scoring.picks = [] ∧ s.scored = s.filtered ∧
      ∀ c ∈ s.candidates, c.2 = lists.positives.countP (accepts c.1) := by
  obtain ⟨-, -, table, m, ends, filtered, scored, -⟩ := stages_of_run ran
  have truth := Coverage.truthful_table ends
  have scoring : s.scoring = .simple (Score.simple table lists.positives.length) :=
    (congrArg Prod.fst (Except.ok.inj scored)).symm
  have size : s.scored = table.length := by
    rw [Synthesis.scored, scoring]
    exact Score.size_simple truth
  have perm := s.perm_candidates
  rw [scoring] at perm
  refine ⟨by rw [scoring]; rfl, by rw [size, filtered], fun c listed => ?_⟩
  exact Score.score_of_mem_simple truth (perm.mem_iff.1 listed)

theorem weighted_of_run {cutting : Cutting} (ran : run lists ⟨.weighted, cutting⟩ = .ok s) :
    s.scored = s.scoring.picks.length ∧ s.scored ≤ s.filtered ∧
      s.scored ≤ lists.positives.toFinset.card ∧
      s.candidates.Perm (s.scoring.picks.map fun p => (p.fragment, p.coverage)) := by
  obtain ⟨-, -, table, m, ends, filtered, scored, -⟩ := stages_of_run ran
  obtain ⟨⟨w, m'⟩, played, eq⟩ := bind_eq_ok_iff.1 scored
  have scoring : s.scoring = .weighted w := (congrArg Prod.fst (Except.ok.inj eq)).symm
  obtain ⟨once, entries, words⟩ := Score.picks_of_weighted (Coverage.truthful_table ends)
    (agrees_tableOf ends) Matcher.honest_empty played
  have kept := Score.Weighted.perm_scores once
  have size : s.scored = w.picks.length := by
    rw [Synthesis.scored, scoring]
    exact kept.length_eq.trans (List.length_map _)
  have perm := s.perm_candidates
  rw [scoring] at perm ⊢
  rw [filtered, size]
  exact ⟨rfl, entries, words, perm.trans kept⟩

/-- What a run reports. -/
theorem run_accounts (lists : WordLists) (options : Options) (s : Synthesis)
    (ran : run lists options = .ok s) :
    s.generated ≤ s.expanded ∧ s.filtered ≤ s.expanded ∧ s.scored = s.candidates.length ∧
    (s.candidates.map (·.1)).Nodup ∧ s.candidates.Pairwise Pool.Outranks ∧
    (s.cover.map fun p => (p.fragment, p.score)).Sublist s.candidates ∧
    match options.strategy with
    | .simple => s.scoring.picks = [] ∧ s.scored = s.filtered ∧
        ∀ c ∈ s.candidates, c.2 = lists.positives.countP (accepts c.1)
    | .weighted => s.scored = s.scoring.picks.length ∧ s.scored ≤ s.filtered ∧
        s.scored ≤ lists.positives.toFinset.card ∧
        s.candidates.Perm (s.scoring.picks.map fun p => (p.fragment, p.coverage)) := by
  obtain ⟨generated, expanded, table, m, ends, filtered, -, scanned⟩ := stages_of_run ran
  have perm := s.perm_candidates
  refine ⟨?_, ?_, perm.length_eq.symm, ?_, s.scoring.scores.pairwise_ranked, ?_, ?_⟩
  · rw [generated, expanded]
    exact size_le_size_space options.cutting lists.positives
  · rw [filtered, expanded]
    exact length_le_size_space ends
  · exact (perm.map _).nodup_iff.2 s.scoring.scores.nodup_keys
  · rw [scanned]
    exact Cover.sublist_scan _ _ _
  · obtain ⟨strategy, cutting⟩ := options
    cases strategy with
    | simple => exact simple_of_run ran
    | weighted => exact weighted_of_run ran

theorem run_accounts_letters :
    ∃ s t, run ⟨["a", "a", "b"], ["c"]⟩ ⟨.weighted, ⟨1, false, false⟩⟩ = .ok s ∧
      s.candidates.Perm [("a", 2), ("b", 1)] ∧
      run ⟨["a", "a", "b"], ["c"]⟩ ⟨.simple, ⟨1, false, false⟩⟩ = .ok t ∧ t.scored = 2 ∧
      ∀ c ∈ t.candidates, c.2 = ["a", "a", "b"].countP (accepts c.1) := by
  have weighted : run ⟨["a", "a", "b"], ["c"]⟩ ⟨.weighted, ⟨1, false, false⟩⟩ =
      .ok ⟨4, 5, 2, .weighted ⟨[⟨"a", 2, 2, 1, 1⟩, ⟨"b", 1, 1, 1, 0⟩], 0, false⟩,
        [⟨"a", 2, 1⟩, ⟨"b", 1, 0⟩], true⟩ := by decide +kernel
  have simple : run ⟨["a", "a", "b"], ["c"]⟩ ⟨.simple, ⟨1, false, false⟩⟩ =
      .ok ⟨4, 5, 2, .simple (.ofList [("a", 2), ("b", 1)]),
        [⟨"a", 2, 1⟩, ⟨"b", 1, 0⟩], true⟩ := by decide +kernel
  obtain ⟨-, -, -, -, -, -, -, -, -, picked⟩ := run_accounts _ _ _ weighted
  obtain ⟨-, -, -, -, -, -, -, kept, counts⟩ := run_accounts _ _ _ simple
  exact ⟨_, _, weighted, picked, simple, kept, counts⟩

end Synthesis

end RegexGolf
