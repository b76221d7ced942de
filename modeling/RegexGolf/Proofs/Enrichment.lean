import RegexGolf.Proofs.Separation
import RegexGolf.Proofs.WindowSets

/-!
Richer choices lose no solution. A wider window and more variants add fragments and take none away,
and fewer negatives rule out fewer of them; so what was covered stays covered, and a run that found
a valid pattern still finds one, if not the same. The only way out is an operator behind a bar: with
operators a positive that holds a bar has a fragment that cannot be read.
-/

namespace RegexGolf

open Regex Alternation Fragment

namespace Fragment

variable {c d : Cutting}

theorem Origin.of_within (within : c.Within d) {word key window form ending : List Char}
    (o : Origin c word key window form ending) : Origin d word key window form ending where
  some := o.some
  short := Nat.le_trans o.short within.window
  inside := o.inside
  taken := mem_forms_of_imp within.caseVariants o.taken
  ends := mem_endings_of_imp within.quantifiers o.ends
  widened := o.widened

theorem mem_space_of_within (within : c.Within d) {words : List String} {key : String}
    (listed : key ∈ (space c words).keys) : key ∈ (space d words).keys := by
  obtain ⟨word, member, window, form, ending, o⟩ := mem_space.1 listed
  exact mem_space.2 ⟨word, member, window, form, ending, o.of_within within⟩

/-- A word that holds no operator holds one under more variants only if these are the operators that
may stand behind its bar. -/
theorem HoldsOperator.of_within {word : String} (holds : HoldsOperator d word)
    (free : ¬HoldsOperator c word) : d.quantifiers ∧ ¬c.quantifiers ∧ '|' ∈ word.toList := by
  rcases holds with ⟨sign, member, operator⟩ | ⟨quantifiers, bar⟩
  · exact absurd (.inl ⟨sign, member, operator⟩) free
  · exact ⟨quantifiers, fun already => free (.inr ⟨already, bar⟩), bar⟩

end Fragment

theorem Covered.of_within {c d : Cutting} (within : c.Within d)
    {words negatives others : List String} (fewer : ∀ word ∈ others, word ∈ negatives)
    {word : String} (covered : Covered c words negatives word) : Covered d words others word := by
  obtain ⟨key, listed, accepted, spares⟩ := covered
  exact ⟨key, mem_space_of_within within listed, accepted, fun n other => spares n (fewer n other)⟩

namespace Synthesis

theorem free_of_run {lists : WordLists} {options : Options} (wide : 1 ≤ options.cutting.window)
    {s : Synthesis} (ran : run lists options = .ok s) :
    ∀ word ∈ lists.positives, ¬HoldsOperator options.cutting word := by
  obtain ⟨table, -, -, -, -, -, ends, -⟩ := run_eq_ok_iff.1 ran
  exact free_of_tableOf wide ends

/-- A run that converged converges with richer choices and fewer negatives. -/
theorem run_converged_of_within (positives negatives others : List String)
    (options richer : Options) (s : Synthesis) (some : positives ≠ [])
    (fewer : ∀ word ∈ others, word ∈ negatives) (wide : 1 ≤ options.cutting.window)
    (within : options.cutting.Within richer.cutting)
    (room : LeavesRoom positives.length (space richer.cutting positives).keys)
    (ran : run ⟨positives, negatives⟩ options = .ok s) (converged : s.converged) :
    if richer.cutting.quantifiers ∧ ¬options.cutting.quantifiers ∧
        ∃ word ∈ positives, '|' ∈ word.toList then
      ∃ e, run ⟨positives, others⟩ richer = .error e
    else ∃ t, run ⟨positives, others⟩ richer = .ok t ∧ t.converged := by
  have free := free_of_run wide ran
  have wider : 1 ≤ richer.cutting.window := Nat.le_trans wide within.window
  split
  · rename_i gained
    obtain ⟨quantifiers, -, word, listed, bar⟩ := gained
    cases ends : tableOf ⟨positives, others⟩ richer.cutting with
    | ok table => exact absurd (.inr ⟨quantifiers, bar⟩) (free_of_tableOf wider ends word listed)
    | error e => exact ⟨e, run_of_table_error ends⟩
  · rename_i kept
    have less := room.of_subset fun f listed => mem_space_of_within within listed
    have still : ∀ word ∈ positives, ¬HoldsOperator richer.cutting word := by
      intro word listed holds
      obtain ⟨quantifiers, none, bar⟩ := holds.of_within (free word listed)
      exact kept ⟨quantifiers, none, word, listed, bar⟩
    obtain ⟨s', ran', covered⟩ := converged_iff_covered ⟨positives, negatives⟩ options.strategy
      wide some free less
    obtain ⟨t, found, valid⟩ := converged_iff_covered ⟨positives, others⟩ richer.strategy
      wider some still room
    rw [ran] at ran'
    cases ran'
    refine ⟨t, found, valid.2 fun word listed => ?_⟩
    exact (covered.1 converged word listed).of_within within fewer

theorem run_converged_of_within_letters :
    ∃ t, run ⟨["a"], ["c"]⟩ ⟨.weighted, ⟨2, true, false⟩⟩ = .ok t ∧ t.converged := by
  have found : (run ⟨["a"], ["b", "c"]⟩ ⟨.simple, ⟨1, false, false⟩⟩).toOption.any
      (·.converged) := by
    decide +kernel
  have room : LeavesRoom 1 (space ⟨2, true, false⟩ ["a"]).keys :=
    leavesRoom_of_choices _ (fun _ listed => mem_texts.1 listed) (by decide +kernel)
  cases ran : run ⟨["a"], ["b", "c"]⟩ ⟨.simple, ⟨1, false, false⟩⟩ with
  | error e => simp [ran, Except.toOption] at found
  | ok s =>
    rw [ran] at found
    have kept := run_converged_of_within ["a"] ["b", "c"] ["c"] ⟨.simple, ⟨1, false, false⟩⟩
      ⟨.weighted, ⟨2, true, false⟩⟩ s (by simp) (by simp) (by decide)
      ⟨by decide, by decide, by decide⟩ room ran found
    simpa using kept

end Synthesis

end RegexGolf
