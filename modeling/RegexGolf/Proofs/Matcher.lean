import RegexGolf.Matcher

/-!
What a matcher remembers does not show. A matcher is honest if every expression that it knows is the
one its pattern is read to; an honest matcher answers as if each pattern were read anew, stays
honest, and fails only with the fault of the pattern that it was asked for.
-/

namespace RegexGolf

namespace Regex

/-- Whether a pattern can be read and matches a word. -/
def accepts (pattern word : String) : Bool :=
  match parse pattern with
  | .ok r => r.isMatch word
  | .error _ => false

theorem accepts_of_parse {pattern : String} {r : Regex} (read : parse pattern = .ok r)
    (word : String) : accepts pattern word = r.isMatch word := by
  simp only [accepts, read]

theorem validates_iff (r : Regex) (positives negatives : List String) :
    r.validates positives negatives ↔
      (∀ w ∈ positives, r.isMatch w) ∧ ∀ w ∈ negatives, ¬r.isMatch w := by
  simp [validates]

theorem pattern_of_parse_error {pattern : String} {e : PatternError}
    (fails : parse pattern = .error e) : e.pattern = pattern := by
  simp only [parse] at fails
  split at fails
  · cases fails
    rfl
  · split at fails
    · cases fails
    · cases fails
      rfl

end Regex

namespace Matcher

def Honest (m : Matcher) : Prop :=
  ∀ pattern r, m.known.lookup pattern = some r → Regex.parse pattern = .ok r

theorem honest_empty : empty.Honest := by
  intro pattern r known
  simp [empty] at known

/-- An outcome that leaves an honest matcher, or else the fault that a pattern really has. -/
structure Sound {α : Type} (outcome : Except Regex.PatternError (α × Matcher)) : Prop where
  honest : ∀ a m, outcome = .ok (a, m) → m.Honest
  fault : ∀ e, outcome = .error e → Regex.parse e.pattern = .error e

theorem sound_ok {α : Type} {a : α} {m : Matcher} (h : m.Honest) :
    Sound (.ok (a, m) : Except Regex.PatternError (α × Matcher)) where
  honest b n eq := by
    cases eq
    exact h
  fault e eq := by cases eq

theorem sound_error {α : Type} {e : Regex.PatternError} (h : Regex.parse e.pattern = .error e) :
    Sound (.error e : Except Regex.PatternError (α × Matcher)) where
  honest b n eq := by cases eq
  fault d eq := by
    cases eq
    exact h

theorem Sound.bind {α β : Type} {outcome : Except Regex.PatternError (α × Matcher)}
    {next : α × Matcher → Except Regex.PatternError (β × Matcher)} (first : Sound outcome)
    (then_ : ∀ a m, m.Honest → Sound (next (a, m))) : Sound (outcome >>= next) := by
  cases outcome with
  | error e => exact sound_error (first.fault e rfl)
  | ok pair => exact then_ pair.1 pair.2 (first.honest pair.1 pair.2 rfl)

variable {m : Matcher}

theorem Honest.regex_of_parse (h : m.Honest) {pattern : String} {r : Regex}
    (read : Regex.parse pattern = .ok r) :
    ∃ m', m'.Honest ∧ m.regex pattern = .ok (r, m') := by
  cases known : m.known.lookup pattern with
  | some s =>
    have same : s = r := by
      have := h pattern s known
      rw [read] at this
      cases this
      rfl
    exact ⟨m, h, by simp only [regex, known, same]⟩
  | none =>
    refine ⟨⟨(pattern, r) :: m.known⟩, ?_, by simp only [regex, known, read]⟩
    intro other s found
    rw [List.lookup_cons] at found
    split at found
    · rename_i eq
      cases found
      rw [beq_iff_eq.1 eq, read]
    · exact h other s found

theorem Honest.regex_of_error (h : m.Honest) {pattern : String} {e : Regex.PatternError}
    (fails : Regex.parse pattern = .error e) : m.regex pattern = .error e := by
  cases known : m.known.lookup pattern with
  | some s =>
    have := h pattern s known
    rw [fails] at this
    cases this
  | none => simp only [regex, known, fails]

theorem Honest.sound_regex (h : m.Honest) (pattern : String) : Sound (m.regex pattern) := by
  cases read : Regex.parse pattern with
  | ok r =>
    obtain ⟨m', honest, eq⟩ := h.regex_of_parse read
    rw [eq]
    exact sound_ok honest
  | error e =>
    rw [h.regex_of_error read]
    exact sound_error (by rw [Regex.pattern_of_parse_error read, read])

theorem Honest.validate_of_parse (h : m.Honest) {pattern : String} {r : Regex}
    (read : Regex.parse pattern = .ok r) (positives negatives : List String) :
    ∃ m', m'.Honest ∧
      m.validate pattern positives negatives = .ok (r.validates positives negatives, m') := by
  obtain ⟨m', honest, eq⟩ := h.regex_of_parse read
  refine ⟨m', honest, ?_⟩
  rw [validate, eq]
  rfl

theorem Honest.contains_of_parse (h : m.Honest) {pattern : String} {r : Regex}
    (read : Regex.parse pattern = .ok r) (positives negatives : List String) :
    ∃ m', m'.Honest ∧
      m.contains pattern positives negatives = .ok (r.isContained positives negatives, m') := by
  obtain ⟨m', honest, eq⟩ := h.regex_of_parse read
  refine ⟨m', honest, ?_⟩
  rw [contains, eq]
  rfl

theorem Honest.sound_validate (h : m.Honest) (pattern : String)
    (positives negatives : List String) : Sound (m.validate pattern positives negatives) :=
  (h.sound_regex pattern).bind fun _ _ => sound_ok

theorem Honest.sound_contains (h : m.Honest) (pattern : String)
    (positives negatives : List String) : Sound (m.contains pattern positives negatives) :=
  (h.sound_regex pattern).bind fun _ _ => sound_ok

theorem Honest.validate_eq (h : m.Honest) (pattern : String) (positives negatives : List String) :
    (m.validate pattern positives negatives).map Prod.fst =
      RegexGolf.validate pattern positives negatives := by
  cases read : Regex.parse pattern with
  | ok r =>
    obtain ⟨m', -, eq⟩ := h.validate_of_parse read positives negatives
    rw [eq, RegexGolf.validate, read]
    rfl
  | error e =>
    rw [validate, h.regex_of_error read, RegexGolf.validate, read]
    rfl

end Matcher

end RegexGolf
