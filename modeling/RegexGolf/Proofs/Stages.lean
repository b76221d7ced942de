import RegexGolf.Proofs.Matcher
import RegexGolf.Proofs.PassRounds
import RegexGolf.Synthesis

/-!
The stages of a run, taken apart. A run succeeds exactly when its stages do in turn, and no stage
spoils the matcher that it hands on, so that the judgement at the end is the one that the pattern
gets on its own.
-/

namespace RegexGolf

theorem bind_eq_ok_iff {ε α β : Type} {outcome : Except ε α} {next : α → Except ε β} {b : β} :
    (outcome >>= next) = .ok b ↔ ∃ a, outcome = .ok a ∧ next a = .ok b := by
  cases outcome with
  | error e =>
    constructor
    · intro h
      cases h
    · rintro ⟨a, h, -⟩
      cases h
  | ok a =>
    constructor
    · intro h
      exact ⟨a, rfl, h⟩
    · rintro ⟨_, h, eq⟩
      cases h
      exact eq

theorem bind_eq_error_iff {ε α β : Type} {outcome : Except ε α} {next : α → Except ε β} {e : ε} :
    (outcome >>= next) = .error e ↔
      outcome = .error e ∨ ∃ a, outcome = .ok a ∧ next a = .error e := by
  cases outcome with
  | error d =>
    constructor
    · intro h
      cases h
      exact .inl rfl
    · rintro (h | ⟨a, h, _⟩)
      · cases h
        rfl
      · cases h
  | ok a =>
    constructor
    · intro h
      exact .inr ⟨a, rfl, h⟩
    · rintro (h | ⟨_, h, eq⟩)
      · cases h
      · cases h
        exact eq

open Matcher

namespace Coverage

theorem fault_of_ofFragments {positives negatives fragments : List String}
    {e : Regex.PatternError}
    (fails : ofFragments positives negatives fragments = .error e) :
    Regex.parse e.pattern = .error e := by
  induction fragments with
  | nil => cases fails
  | cons f rest ih =>
    rw [ofFragments, bind_eq_error_iff] at fails
    rcases fails with fails | ⟨r, -, fails⟩
    · rw [Regex.pattern_of_parse_error fails, fails]
    · rw [bind_eq_error_iff] at fails
      rcases fails with fails | ⟨table, -, fails⟩
      · exact ih fails
      · cases fails

end Coverage

namespace Score

namespace Weighted

theorem sound_round {table : CoverageTable} {positives : List String} {p : Progress}
    (h : p.matcher.Honest) {outcome : Except Regex.PatternError Progress}
    (played : round table positives p = some outcome) :
    (∀ next, outcome = .ok next → next.matcher.Honest) ∧
      ∀ e, outcome = .error e → Regex.parse e.pattern = .error e := by
  simp only [round] at played
  split at played
  · cases played
  · rename_i chosen _
    have sound := h.sound_regex
      (Alternation.join ((table[chosen.entry]?.map (·.fragment)).getD "" :: p.alternation))
    split at played
    · rename_i e fails
      cases played
      constructor
      · intro next eq
        cases eq
      · intro d eq
        cases eq
        exact sound.fault e fails
    · rename_i r m found
      cases played
      constructor
      · intro next eq
        cases eq
        exact sound.honest r m found
      · intro d eq
        cases eq

theorem sound_play {table : CoverageTable} {positives : List String} (rounds : Nat)
    {p : Progress} (h : p.matcher.Honest) : Sound (play table positives rounds p) := by
  obtain ⟨q, reaches, ends⟩ := play_cases table positives rounds p
  have honest : q.matcher.Honest := by
    clear ends
    induction reaches with
    | refl => exact h
    | tail _ leads ih => exact (sound_round ih leads.2).1 _ rfl
  rcases ends with ⟨-, ends⟩ | ⟨e, -, fails, ends⟩ | ⟨-, -, ends⟩
  · rw [ends]
    exact sound_ok honest
  · rw [ends]
    exact sound_error ((sound_round honest fails).2 e rfl)
  · rw [ends]
    exact sound_ok honest

end Weighted

end Score

namespace Synthesis

theorem sound_score (strategy : Strategy) (table : CoverageTable) (positives : List String)
    {m : Matcher} (h : m.Honest) : Sound (score strategy table positives m) := by
  cases strategy with
  | weighted => exact (Score.Weighted.sound_play _ h).bind fun _ _ => sound_ok
  | simple => exact sound_ok h

end Synthesis

namespace Cover

theorem sound_extend (positives negatives : List String) {left : List String} {found : Cover}
    {m : Matcher} (h : m.Honest) (ranked : List (String × Nat)) :
    Sound (extend positives negatives left found m ranked) := by
  induction ranked generalizing left found m with
  | nil => exact sound_ok h
  | cons entry rest ih =>
    rw [extend]
    refine (h.sound_contains entry.1 left negatives).bind fun useful m₁ h₁ => ?_
    cases useful with
    | false => exact ih h₁
    | true =>
      refine (h₁.sound_regex entry.1).bind fun r m₂ h₂ => ?_
      refine (h₂.sound_validate _ positives negatives).bind fun valid m₃ h₃ => ?_
      cases valid with
      | true => exact sound_ok h₃
      | false => exact ih h₃

theorem sound_build (scored : Pool) (positives negatives : List String) {m : Matcher}
    (h : m.Honest) : Sound (build scored positives negatives m) :=
  sound_extend positives negatives h scored.ranked

end Cover

namespace Synthesis

variable {lists : WordLists} {options : Options}

def tableOf (lists : WordLists) (cutting : Cutting) :
    Except Regex.PatternError CoverageTable :=
  Coverage.table (Fragment.expand (Fragment.ofWords cutting lists.positives)) lists.positives
    lists.negatives

theorem run_eq_ok_iff {s : Synthesis} :
    run lists options = .ok s ↔
      ∃ table scoring m₁ cover m₂ m₃,
        tableOf lists options.cutting = .ok table ∧
        score options.strategy table lists.positives .empty = .ok (scoring, m₁) ∧
        Cover.build scoring.scores lists.positives lists.negatives m₁ = .ok (cover, m₂) ∧
        m₂.validate cover.pattern lists.positives lists.negatives = .ok (s.converged, m₃) ∧
        s = ⟨(Fragment.ofWords options.cutting lists.positives).size,
          (Fragment.expand (Fragment.ofWords options.cutting lists.positives)).size,
          table.length, scoring, cover, s.converged⟩ := by
  simp only [run, bind_eq_ok_iff, tableOf, Prod.exists]
  constructor
  · rintro ⟨table, h₁, scoring, m₁, h₂, cover, m₂, h₃, converged, m₃, h₄, eq⟩
    cases eq
    exact ⟨table, scoring, m₁, cover, m₂, m₃, h₁, h₂, h₃, h₄, rfl⟩
  · rintro ⟨table, scoring, m₁, cover, m₂, m₃, h₁, h₂, h₃, h₄, eq⟩
    exact ⟨table, h₁, scoring, m₁, h₂, cover, m₂, h₃, s.converged, m₃, h₄, by rw [eq]; rfl⟩

theorem run_of_table_error {e : Regex.PatternError}
    (fails : tableOf lists options.cutting = .error e) : run lists options = .error e := by
  simp only [run, bind_eq_error_iff]
  exact .inl fails

theorem fault_of_run {e : Regex.PatternError} (fails : run lists options = .error e) :
    Regex.parse e.pattern = .error e := by
  simp only [run, bind_eq_error_iff, Prod.exists] at fails
  rcases fails with fails | ⟨table, -, fails | ⟨scoring, m₁, scored, fails | ⟨cover, m₂, built,
    fails | ⟨converged, m₃, -, fails⟩⟩⟩⟩
  · exact Coverage.fault_of_ofFragments fails
  · exact (sound_score _ _ _ honest_empty).fault e fails
  · have h₁ := (sound_score _ _ _ honest_empty).honest _ _ scored
    exact (Cover.sound_build _ _ _ h₁).fault e fails
  · have h₁ := (sound_score _ _ _ honest_empty).honest _ _ scored
    have h₂ := (Cover.sound_build _ _ _ h₁).honest _ _ built
    exact (h₂.sound_validate _ _ _).fault e fails
  · cases fails

theorem parse_of_run {s : Synthesis} (ends : run lists options = .ok s) :
    ∃ r, Regex.parse s.pattern = .ok r ∧
      s.converged = r.validates lists.positives lists.negatives := by
  obtain ⟨table, scoring, m₁, cover, m₂, m₃, -, scored, built, judged, eq⟩ :=
    run_eq_ok_iff.1 ends
  have h₁ := (sound_score _ _ _ honest_empty).honest _ _ scored
  have h₂ := (Cover.sound_build _ _ _ h₁).honest _ _ built
  have same : cover.pattern = s.pattern := by rw [eq]; rfl
  rw [same] at judged
  have fresh := h₂.validate_eq s.pattern lists.positives lists.negatives
  rw [judged] at fresh
  obtain ⟨r, read, valid⟩ := bind_eq_ok_iff.1 fresh.symm
  exact ⟨r, read, (Except.ok.inj valid).symm⟩

end Synthesis

end RegexGolf
