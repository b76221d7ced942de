import RegexGolf.Proofs.Stages
import RegexGolf.Proofs.WordLists

/-!
How a search over two blocks of lines can end. A pattern that is answered tells the lines of the
blocks apart, a pattern that is only the best effort does not, and nothing else but a faulty pattern
stops the search. The judgement is made by the matcher that has served the whole run; it is shown to
be the one that a fresh reading of the pattern gives.
-/

namespace RegexGolf

section

variable {positive negative : String} (hp : positive ≠ "") (hn : negative ≠ "")
  {options : Options}

include hp hn

theorem solve_of_run {s : Synthesis}
    (ends : Synthesis.run (.ofLines positive negative) options = .ok s) :
    solve positive negative options =
      if s.converged then .ok ⟨.ofLines positive negative, options.strategy, s⟩
      else .error (.notConverged s.pattern) := by
  simp only [solve, WordLists.ofBlocks_of_ne_empty hp hn, bind, Except.bind, ends, Solution.ofRun]

theorem solve_of_fault {e : Regex.PatternError}
    (fails : Synthesis.run (.ofLines positive negative) options = .error e) :
    solve positive negative options = .error (.malformed e) := by
  simp only [solve, WordLists.ofBlocks_of_ne_empty hp hn, bind, Except.bind, fails, Solution.ofRun]

end

theorem run_of_solve {positive negative : String} {options : Options} {s : Solution}
    (found : solve positive negative options = .ok s) :
    Synthesis.run (.ofLines positive negative) options = .ok s.synthesis ∧
      s.synthesis.converged := by
  obtain ⟨lists, split, ended⟩ := bind_eq_ok_iff.1 found
  have lines : lists = .ofLines positive negative := by
    simp only [WordLists.ofBlocks] at split
    split at split
    · cases split
    · split at split
      · cases split
      · cases split
        rfl
  subst lines
  cases ran : Synthesis.run (.ofLines positive negative) options with
  | error e => simp [ran, Solution.ofRun] at ended
  | ok run =>
    simp only [ran, Solution.ofRun] at ended
    split at ended
    · rename_i converged
      cases ended
      exact ⟨rfl, converged⟩
    · cases ended

/-- An expression tells two blocks apart: it matches every line of the first and no line of the
second, save lines that stand in both. -/
structure Regex.Separates (r : Regex) (positive negative : String) : Prop where
  matches_positive : ∀ line ∈ Text.Lines.split positive, r.isMatch line
  spares_negative : ∀ line ∈ Text.Lines.split negative,
    line ∉ Text.Lines.split positive → ¬r.isMatch line

theorem Regex.validates_iff_separates (r : Regex) (positive negative : String) :
    r.validates (WordLists.ofLines positive negative).positives
      (WordLists.ofLines positive negative).negatives ↔ r.Separates positive negative := by
  rw [r.validates_iff]
  constructor
  · rintro ⟨all, none⟩
    exact ⟨all, fun line listed other => none line (WordLists.mem_disjoint.2 ⟨listed, other⟩)⟩
  · rintro ⟨all, none⟩
    refine ⟨all, fun line listed => ?_⟩
    have := WordLists.mem_disjoint.1 listed
    exact none line this.1 this.2

/-- The end of a search, as one of three. The last part says that it does not matter what the
matcher has come to know on the way: from any honest one on, the stages leave one that judges every
pattern as if it knew none. -/
theorem solve_outcome (positive negative : String) (options : Options) (hp : positive ≠ "")
    (hn : negative ≠ "") :
    ((∃ s r, solve positive negative options = .ok s ∧ Regex.parse s.pattern = .ok r ∧
          r.Separates positive negative) ∨
      (∃ bestEffort r, solve positive negative options = .error (.notConverged bestEffort) ∧
          Regex.parse bestEffort = .ok r ∧ ¬r.Separates positive negative) ∨
      ∃ e, solve positive negative options = .error (.malformed e) ∧
          Regex.parse e.pattern = .error e) ∧
    ∀ m₀ : Matcher, m₀.Honest → ∀ table scoring m₁ cover m₂,
      Synthesis.score options.strategy table (Text.Lines.split positive) m₀ =
          .ok (scoring, m₁) →
      Cover.build scoring.scores (WordLists.ofLines positive negative).positives
          (WordLists.ofLines positive negative).negatives m₁ = .ok (cover, m₂) →
      ∀ pattern positives negatives,
        (m₂.validate pattern positives negatives).map Prod.fst =
          validate pattern positives negatives := by
  constructor
  · cases ends : Synthesis.run (.ofLines positive negative) options with
    | error e => exact .inr (.inr ⟨e, solve_of_fault hp hn ends, Synthesis.fault_of_run ends⟩)
    | ok s =>
      obtain ⟨r, read, judged⟩ := Synthesis.parse_of_run ends
      have told := solve_of_run hp hn ends
      have meaning := r.validates_iff_separates positive negative
      rw [← judged] at meaning
      by_cases converged : s.converged
      · rw [if_pos converged] at told
        exact .inl ⟨_, r, told, read, meaning.1 converged⟩
      · rw [if_neg converged] at told
        exact .inr (.inl ⟨s.pattern, r, told, read, fun h => converged (meaning.2 h)⟩)
  · intro m₀ h₀ table scoring m₁ cover m₂ scored built pattern positives negatives
    have h₁ := (Synthesis.sound_score _ _ _ h₀).honest _ _ scored
    have h₂ := (Cover.sound_build _ _ _ h₁).honest _ _ built
    exact h₂.validate_eq pattern positives negatives

theorem solve_outcome_letters :
    ∃ s r, solve "a\nb" "b\nc" ⟨.weighted, ⟨1, false, false⟩⟩ = .ok s ∧
      Regex.parse s.pattern = .ok r ∧ r.Separates "a\nb" "b\nc" := by
  have answered : (solve "a\nb" "b\nc" ⟨.weighted, ⟨1, false, false⟩⟩).toOption.isSome := by
    decide +kernel
  obtain ⟨found | ⟨_, _, fails, _⟩ | ⟨_, fails, _⟩, -⟩ :=
    solve_outcome "a\nb" "b\nc" ⟨.weighted, ⟨1, false, false⟩⟩ (by decide) (by decide)
  · exact found
  · simp [fails, Except.toOption] at answered
  · simp [fails, Except.toOption] at answered

end RegexGolf
