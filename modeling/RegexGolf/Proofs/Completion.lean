import RegexGolf.Proofs.CoverageTable
import RegexGolf.Proofs.FragmentSpace
import RegexGolf.Proofs.GreedyCover
import RegexGolf.Proofs.SimpleScores
import RegexGolf.Proofs.WeightedRounds

/-!
Once its table is built a run ends. Both strategies score fragments of the table that match every
positive that the table can match; the cover built from them does so too, and its pattern can be
read.
-/

namespace RegexGolf

open Regex Alternation

namespace Score

theorem mem_keys_simple {table : CoverageTable} {positives : Nat} {fragment : String} :
    fragment ∈ (simple table positives).keys ↔ fragment ∈ table.map (·.fragment) := by
  rw [simple_eq_ofList, Pool.mem_keys_ofList, List.map_map]
  rfl

end Score

/-- Some fragments of a table, which match every positive that the table can match. -/
structure CoverageTable.Reached (table : CoverageTable) (positives fragments : List String) :
    Prop where
  among : ∀ f ∈ fragments, f ∈ table.map (·.fragment)
  covers : ∀ e ∈ table, ∀ word ∈ positives, accepts e.fragment word →
    ∃ f ∈ fragments, accepts f word

theorem CoverageTable.Reached.readable {table : CoverageTable} {positives fragments : List String}
    (reached : table.Reached positives fragments)
    (readable : ∀ e ∈ table, ∃ r, parse e.fragment = .ok r) :
    ∀ f ∈ fragments, ∃ r, parse f = .ok r := by
  intro f listed
  obtain ⟨e, member, rfl⟩ := List.mem_map.1 (reached.among f listed)
  exact readable e member

namespace Synthesis

section

variable {strategy : Strategy} {table : CoverageTable} {positives negatives : List String}
  (truth : Coverage.Truthful table positives negatives) {m : Matcher} (h : m.Honest)

include truth h

theorem reached_of_score (agrees : Agrees positives.length (table.map (·.fragment)))
    {scoring : Scoring} {m' : Matcher}
    (ends : score strategy table positives m = .ok (scoring, m')) :
    table.Reached positives scoring.scores.keys := by
  cases strategy with
  | weighted =>
    obtain ⟨⟨w, m₁⟩, played, eq⟩ := bind_eq_ok_iff.1 ends
    cases eq
    obtain ⟨q, -, faithful, finished, last⟩ :=
      Score.exists_last_of_weighted truth h agrees played
    obtain ⟨among, covers⟩ :=
      faithful.covers_of_finished truth finished (congrArg Score.Weighted.picks last)
    exact ⟨among, covers⟩
  | simple =>
    cases ends
    refine ⟨fun f listed => Score.mem_keys_simple.1 listed, ?_⟩
    intro e listed word _ accepted
    exact ⟨e.fragment, Score.mem_keys_simple.2 (List.mem_map_of_mem listed), accepted⟩

theorem score_of_truthful (strategy : Strategy)
    (unites : Unites positives.length (table.map (·.fragment))) :
    ∃ scoring m', score strategy table positives m = .ok (scoring, m') ∧ m'.Honest ∧
      table.Reached positives scoring.scores.keys := by
  obtain ⟨scoring, m', ends⟩ : ∃ scoring m', score strategy table positives m =
      .ok (scoring, m') := by
    cases strategy with
    | weighted =>
      obtain ⟨q, -, -, ends⟩ := Score.weighted_eq_of_truthful truth h unites
      exact ⟨_, _, by rw [score, ends]; rfl⟩
    | simple => exact ⟨_, m, rfl⟩
  exact ⟨scoring, m', ends, (sound_score strategy table positives h).honest _ _ ends,
    reached_of_score truth h unites.agrees ends⟩

end

end Synthesis

namespace Cover

/-- What is built from a table: fragments that match as much as the table, once each, and no more
than there are positives. -/
structure Complete (table : CoverageTable) (positives : List String) (c : Cover) : Prop where
  reached : table.Reached positives c.fragments
  once : c.fragments.Nodup
  few : c.fragments.length ≤ positives.length

variable {table : CoverageTable} {positives negatives : List String} {c : Cover}

theorem complete_scan (truth : Coverage.Truthful table positives negatives) {scores : Pool}
    (reached : table.Reached positives scores.keys) :
    Complete table positives (scan negatives positives scores.ranked) := by
  have keys : (scores.ranked.map (·.1)).Perm scores.keys := scores.perm_ranked.map _
  obtain ⟨once, inside⟩ := nodup_scan_ranked negatives positives scores
  refine ⟨⟨fun f listed => reached.among f (inside f listed), ?_⟩, once, ?_⟩
  · intro e listed word member accepted
    obtain ⟨f, key, taken⟩ := reached.covers e listed word member accepted
    obtain ⟨d, among, rfl⟩ := List.mem_map.1 (reached.among f key)
    obtain ⟨entry, ranked, eq⟩ := List.mem_map.1 (keys.mem_iff.2 key)
    have spares : ∀ n ∈ negatives, ¬accepts entry.1 n := by
      intro n negative
      rw [eq, truth.spares among negative]
      exact Bool.false_ne_true
    rw [← eq] at taken
    obtain ⟨part, kept, matched⟩ := covers_scan member ranked spares taken
    exact ⟨part.fragment, List.mem_map_of_mem kept, matched⟩
  · simpa [fragments] using length_scan_le negatives positives scores.ranked

section

variable (readable : ∀ e ∈ table, ∃ r, parse e.fragment = .ok r) {scores : Pool}
  (reached : table.Reached positives scores.keys) {m : Matcher} (h : m.Honest)

include readable reached h

theorem complete_of_build (truth : Coverage.Truthful table positives negatives)
    (agrees : Agrees positives.length (table.map (·.fragment))) {m' : Matcher}
    (built : build scores positives negatives m = .ok (c, m')) : c.Complete table positives := by
  rw [eq_scan_of_build negatives scores (reached.readable readable)
    (agrees.of_subset reached.among) h built]
  exact complete_scan truth reached

theorem build_of_reached (truth : Coverage.Truthful table positives negatives)
    (unites : Unites positives.length (table.map (·.fragment))) :
    ∃ c m', build scores positives negatives m = .ok (c, m') ∧ m'.Honest ∧
      c.Complete table positives := by
  obtain ⟨m', h', ends⟩ := build_eq_scan negatives scores (reached.readable readable)
    (unites.of_subset reached.among) h
  exact ⟨_, m', ends, h', complete_scan truth reached⟩

end

theorem Complete.isMatch_eq (h : c.Complete table positives) (some : c ≠ [])
    (agrees : Agrees positives.length (table.map (·.fragment))) {r : Regex}
    (read : parse c.pattern = .ok r) (word : String) :
    r.isMatch word = c.fragments.any (accepts · word) :=
  agrees c.fragments (by simpa [fragments] using some) h.once h.few h.reached.among r read word

theorem Complete.parse_pattern (h : c.Complete table positives) (some : c ≠ [])
    (unites : Unites positives.length (table.map (·.fragment))) :
    ∃ r, parse c.pattern = .ok r ∧
      ∀ word, r.isMatch word = c.fragments.any (accepts · word) :=
  unites c.fragments (by simpa [fragments] using some) h.once h.few h.reached.among

theorem pattern_nil : pattern [] = "" := rfl

theorem parse_empty : parse "" = .ok .empty := by
  have written : WrittenAs "" [⟨[], none, by simp⟩] := ⟨by simp, rfl⟩
  exact written.parse_eq (hasRoom_iff.2 (by decide +kernel))

theorem isMatch_empty (word : String) : Regex.empty.isMatch word := by
  have bit : (1 <<< (word.toList.length + 1)) - 1 ≠ 0 := by
    have := Nat.one_lt_two_pow (n := word.toList.length + 1) (by omega)
    rw [Nat.one_shiftLeft]
    omega
  simpa [isMatch, matchesChars, advance, everywhere] using bit

end Cover

namespace Synthesis

variable {lists : WordLists} {cutting : Cutting} {table : CoverageTable}

theorem free_of_tableOf (wide : 1 ≤ cutting.window) (ends : tableOf lists cutting = .ok table) :
    ∀ word ∈ lists.positives, ¬Fragment.HoldsOperator cutting word := by
  intro word listed holds
  obtain ⟨key, member, e, fails⟩ := Fragment.exists_fault_of_holdsOperator wide listed holds
  obtain ⟨r, read⟩ := (Coverage.ofFragments_eq_ok ends).1 key member
  rw [fails] at read
  cases read

theorem parse_of_mem_tableOf (ends : tableOf lists cutting = .ok table) :
    ∀ e ∈ table, ∃ r, parse e.fragment = .ok r := fun _ listed =>
  (Coverage.ofFragments_eq_ok ends).1 _
    ((Coverage.mem_fragments_table ends).1 (List.mem_map_of_mem listed)).1

theorem leavesRoom_tableOf (ends : tableOf lists cutting = .ok table)
    (room : LeavesRoom lists.positives.length (Fragment.space cutting lists.positives).keys) :
    LeavesRoom lists.positives.length (table.map (·.fragment)) :=
  room.of_subset fun _ listed => ((Coverage.mem_fragments_table ends).1 listed).1

theorem plain_tableOf (wide : 1 ≤ cutting.window) (ends : tableOf lists cutting = .ok table) :
    ∀ f ∈ table.map (·.fragment), IsPlainPattern f ∧ HasRoom f := by
  intro f listed
  have key := ((Coverage.mem_fragments_table ends).1 listed).1
  obtain ⟨e, member, rfl⟩ := List.mem_map.1 listed
  obtain ⟨r, read⟩ := parse_of_mem_tableOf ends e member
  exact ⟨Fragment.isPlainPattern_of_mem_space (free_of_tableOf wide ends) key, hasRoom_of_parse read⟩

theorem unites_tableOf (wide : 1 ≤ cutting.window) (ends : tableOf lists cutting = .ok table)
    (room : LeavesRoom lists.positives.length (table.map (·.fragment))) :
    Unites lists.positives.length (table.map (·.fragment)) :=
  unites_of_plain (plain_tableOf wide ends) room

theorem agrees_tableOf (ends : tableOf lists cutting = .ok table) :
    Agrees lists.positives.length (table.map (·.fragment)) := by
  intro parts some once few among r read word
  obtain ⟨f, part⟩ := List.exists_mem_of_ne_nil parts some
  have key := ((Coverage.mem_fragments_table ends).1 (among f part)).1
  have plain := plain_tableOf (Fragment.wide_of_mem_space key) ends
  exact agrees_of_plain plain parts some once few among r read word

theorem complete_of_run {options : Options} {s : Synthesis} (ran : run lists options = .ok s) :
    ∃ table m, tableOf lists options.cutting = .ok table ∧
      score options.strategy table lists.positives .empty = .ok (s.scoring, m) ∧
      s.cover.Complete table lists.positives := by
  obtain ⟨table, scoring, m₁, cover, m₂, m₃, ends, scored, built, -, eq⟩ := run_eq_ok_iff.1 ran
  have truth := Coverage.truthful_table ends
  have agrees := agrees_tableOf ends
  have honest := (sound_score _ _ _ Matcher.honest_empty).honest _ _ scored
  have reached := reached_of_score truth Matcher.honest_empty agrees scored
  have complete :=
    Cover.complete_of_build (parse_of_mem_tableOf ends) reached honest truth agrees built
  rw [eq]
  exact ⟨table, m₁, ends, scored, complete⟩

theorem stages_of_tableOf (strategy : Strategy) (wide : 1 ≤ cutting.window)
    (ends : tableOf lists cutting = .ok table)
    (room : LeavesRoom lists.positives.length (table.map (·.fragment))) :
    ∃ scoring m₁ cover m₂ converged m₃,
      score strategy table lists.positives .empty = .ok (scoring, m₁) ∧
      Cover.build scoring.scores lists.positives lists.negatives m₁ = .ok (cover, m₂) ∧
      m₂.validate cover.pattern lists.positives lists.negatives = .ok (converged, m₃) ∧
      cover.Complete table lists.positives := by
  have truth := Coverage.truthful_table ends
  have unites := unites_tableOf wide ends room
  obtain ⟨scoring, m₁, scored, h₁, reached⟩ :=
    score_of_truthful truth Matcher.honest_empty strategy unites
  obtain ⟨cover, m₂, built, h₂, complete⟩ :=
    Cover.build_of_reached (parse_of_mem_tableOf ends) reached h₁ truth unites
  obtain ⟨r, read⟩ : ∃ r, parse cover.pattern = .ok r := by
    by_cases some : cover = []
    · rw [some]
      exact ⟨_, Cover.parse_empty⟩
    · obtain ⟨r, read, -⟩ := complete.parse_pattern some unites
      exact ⟨r, read⟩
  obtain ⟨m₃, -, judged⟩ := h₂.validate_of_parse read lists.positives lists.negatives
  exact ⟨scoring, m₁, cover, m₂, _, m₃, scored, built, judged, complete⟩

/-- A run whose table is built ends with a complete cover. -/
theorem run_of_tableOf (strategy : Strategy) (wide : 1 ≤ cutting.window)
    (ends : tableOf lists cutting = .ok table)
    (room : LeavesRoom lists.positives.length (table.map (·.fragment))) :
    ∃ s, run lists ⟨strategy, cutting⟩ = .ok s ∧ s.cover.Complete table lists.positives := by
  obtain ⟨scoring, m₁, cover, m₂, converged, m₃, scored, built, judged, complete⟩ :=
    stages_of_tableOf strategy wide ends room
  exact ⟨⟨_, _, _, scoring, cover, converged⟩,
    run_eq_ok_iff.2 ⟨table, scoring, m₁, cover, m₂, m₃, ends, scored, built, judged, rfl⟩, complete⟩

end Synthesis

end RegexGolf
