import RegexGolf.Proofs.Completion

/-!
When a run is refused. It is refused exactly if some positive holds an operator, for the first
fragment in the order of the pool that cannot be read, whatever the negatives are. Behind the table
no stage fails.
-/

namespace RegexGolf

open Regex Alternation Fragment

/-- The fault of the least key that cannot be read. -/
structure IsFirstFault (keys : List String) (e : PatternError) : Prop where
  listed : e.pattern ∈ keys
  fault : parse e.pattern = .error e
  first : ∀ key ∈ keys, key < e.pattern → ∃ r, parse key = .ok r

theorem isFirstFault_of_table {p : Pool} {positives negatives : List String} {e : PatternError}
    (fails : Coverage.table p positives negatives = .error e) : IsFirstFault p.keys e := by
  obtain ⟨before, f, after, eq, all, bad⟩ := Coverage.ofFragments_eq_error_iff.1 fails
  have pattern : e.pattern = f := pattern_of_parse_error bad
  refine ⟨by simp [eq, pattern], by rw [pattern, bad], fun key listed less => ?_⟩
  have sorted := p.pairwise_keys
  rw [eq, List.pairwise_append, List.pairwise_cons] at sorted
  rw [pattern] at less
  rw [eq, List.mem_append, List.mem_cons] at listed
  rcases listed with listed | rfl | listed
  · exact all key listed
  · exact absurd less (String.lt_irrefl key)
  · exact absurd (String.lt_trans less (sorted.2.1.1 key listed)) (String.lt_irrefl key)

theorem table_error_of_table_error {p : Pool} {positives negatives others : List String}
    {e : PatternError} (fails : Coverage.table p positives negatives = .error e) :
    Coverage.table p positives others = .error e :=
  Coverage.ofFragments_eq_error_iff.2 (Coverage.ofFragments_eq_error_iff.1 fails)

namespace Synthesis

variable {positives negatives : List String} {options : Options}

theorem parse_of_free {cutting : Cutting} {words : List String}
    (free : ∀ word ∈ words, ¬HoldsOperator cutting word)
    (room : LeavesRoom words.length (space cutting words).keys) {key : String}
    (listed : key ∈ (space cutting words).keys) : ∃ r, parse key = .ok r := by
  obtain ⟨word, member, -⟩ := mem_space.1 listed
  have alone := room [key] (by simp) (List.length_pos_of_mem member) (by simpa using listed)
  rw [join_singleton] at alone
  obtain ⟨bs, written⟩ := isPlainPattern_of_mem_space free listed
  exact ⟨_, written.parse_eq alone⟩

theorem tableOf_error_of_run_error {lists : WordLists} (wide : 1 ≤ options.cutting.window)
    (room : LeavesRoom lists.positives.length (space options.cutting lists.positives).keys)
    {e : PatternError} (fails : run lists options = .error e) :
    tableOf lists options.cutting = .error e := by
  cases ends : tableOf lists options.cutting with
  | ok table =>
    obtain ⟨s, ok, -⟩ := run_of_tableOf options.strategy wide ends (leavesRoom_tableOf ends room)
    rw [fails] at ok
    cases ok
  | error d =>
    rw [run_of_table_error ends] at fails
    rw [← Except.error.inj fails]

/-- When a run is refused and for what. -/
theorem run_refused_iff (positives negatives : List String) (options : Options)
    (wide : 1 ≤ options.cutting.window)
    (room : LeavesRoom positives.length (space options.cutting positives).keys) :
    ((∃ e, run ⟨positives, negatives⟩ options = .error e) ↔
      ∃ word ∈ positives, HoldsOperator options.cutting word) ∧
    (∀ e, run ⟨positives, negatives⟩ options = .error e →
      IsFirstFault (space options.cutting positives).keys e ∧
      ∀ others, run ⟨positives, others⟩ options = .error e) ∧
    ∀ table, tableOf ⟨positives, negatives⟩ options.cutting = .ok table →
      ∃ scoring m₁ cover m₂ converged m₃,
        score options.strategy table positives .empty = .ok (scoring, m₁) ∧
        Cover.build scoring.scores positives negatives m₁ = .ok (cover, m₂) ∧
        m₂.validate cover.pattern positives negatives = .ok (converged, m₃) := by
  refine ⟨⟨?_, ?_⟩, ?_, ?_⟩
  · rintro ⟨e, fails⟩
    have refused := isFirstFault_of_table (tableOf_error_of_run_error wide room fails)
    refine Classical.byContradiction fun free => ?_
    obtain ⟨r, read⟩ := parse_of_free (by simpa using free) room refused.listed
    rw [refused.fault] at read
    cases read
  · rintro ⟨word, listed, holds⟩
    cases ends : tableOf ⟨positives, negatives⟩ options.cutting with
    | ok table => exact absurd holds (free_of_tableOf wide ends word listed)
    | error e => exact ⟨e, run_of_table_error ends⟩
  · intro e fails
    have refused := tableOf_error_of_run_error wide room fails
    exact ⟨isFirstFault_of_table refused, fun others =>
      run_of_table_error (table_error_of_table_error refused)⟩
  · intro table ends
    obtain ⟨scoring, m₁, cover, m₂, converged, m₃, scored, built, judged, -⟩ :=
      stages_of_tableOf options.strategy wide ends (leavesRoom_tableOf ends room)
    exact ⟨scoring, m₁, cover, m₂, converged, m₃, scored, built, judged⟩

theorem run_refused_plus :
    ∃ e, run ⟨["a", "+"], ["b"]⟩ ⟨.weighted, ⟨1, false, false⟩⟩ = .error e ∧
      IsFirstFault (space ⟨1, false, false⟩ ["a", "+"]).keys e := by
  have room : LeavesRoom 2 (space ⟨1, false, false⟩ ["a", "+"]).keys :=
    leavesRoom_of_choices _ (fun _ listed => mem_texts.1 listed) (by decide +kernel)
  obtain ⟨refused, fault, -⟩ :=
    run_refused_iff ["a", "+"] ["b"] ⟨.weighted, ⟨1, false, false⟩⟩ (by decide) room
  obtain ⟨e, fails⟩ := refused.2 ⟨"+", by simp, .inl ⟨'+', by decide, by decide⟩⟩
  exact ⟨e, fails, (fault e fails).1⟩

end Synthesis

end RegexGolf
