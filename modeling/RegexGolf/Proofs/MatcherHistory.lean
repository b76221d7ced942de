import RegexGolf.Proofs.Matcher

/-!
A matcher over its whole life. Any calls may be made on it in any order, and a call that fails does
not end its life. Told with the matcher changed where it stands, a call first sees to it that the
pattern is known and then looks it up; this is what the matcher answers and leaves behind. Whatever
was called before, the answer is the one that is given without a matcher, and what is known are the
patterns asked for so far that can be read.
-/

namespace RegexGolf

open Regex

namespace Matcher

/-- Sees to it that a pattern is known. The matcher is told for both outcomes. -/
def prepare (m : Matcher) (pattern : String) : Except PatternError Unit × Matcher :=
  if (m.known.lookup pattern).isSome then (.ok (), m)
  else
    match parse pattern with
    | .error e => (.error e, m)
    | .ok r => (.ok (), ⟨(pattern, r) :: m.known⟩)

def fetch (m : Matcher) (pattern : String) : Option (Except PatternError Regex × Matcher) :=
  match m.prepare pattern with
  | (.error e, left) => some (.error e, left)
  | (.ok (), left) => (left.known.lookup pattern).map fun r => (.ok r, left)

/-- The outcome of a call with the matcher that stays, which is the old one if the call fails. -/
def settle {α : Type} (m : Matcher) :
    Except PatternError (α × Matcher) → Except PatternError α × Matcher
  | .ok (a, left) => (.ok a, left)
  | .error e => (.error e, m)

theorem fetch_eq (m : Matcher) (pattern : String) :
    m.fetch pattern = some (m.settle (m.regex pattern)) := by
  unfold fetch prepare regex
  cases known : m.known.lookup pattern with
  | some r => simp [known, settle]
  | none => cases read : parse pattern <;> simp [settle]

inductive Call where
  | regex (pattern : String)
  | validate (pattern : String) (positives negatives : List String)
  | contains (pattern : String) (positives negatives : List String)

inductive Answer where
  | expression (r : Regex)
  | judgement (holds : Bool)

namespace Call

def pattern : Call → String
  | regex pattern => pattern
  | validate pattern _ _ => pattern
  | contains pattern _ _ => pattern

/-- The answer without a matcher, for which the pattern is read anew. -/
def alone : Call → Except PatternError Answer
  | regex pattern => (parse pattern).map .expression
  | validate pattern positives negatives =>
    (RegexGolf.validate pattern positives negatives).map .judgement
  | contains pattern positives negatives =>
    (RegexGolf.contains pattern positives negatives).map .judgement

def on (m : Matcher) : Call → Except PatternError (Answer × Matcher)
  | regex pattern => (m.regex pattern).map (Prod.map .expression id)
  | validate pattern positives negatives =>
    (m.validate pattern positives negatives).map (Prod.map .judgement id)
  | contains pattern positives negatives =>
    (m.contains pattern positives negatives).map (Prod.map .judgement id)

def answer : Call → Regex → Answer
  | regex _, r => .expression r
  | validate _ positives negatives, r => .judgement (r.validates positives negatives)
  | contains _ positives negatives, r => .judgement (r.isContained positives negatives)

/-- The answer of a matcher that is changed where it stands. -/
def perform (m : Matcher) (c : Call) : Option (Except PatternError Answer × Matcher) :=
  (m.fetch c.pattern).map fun (found, left) => (found.map c.answer, left)

theorem alone_eq (c : Call) : c.alone = (parse c.pattern).map c.answer := by
  cases c with
  | regex pattern => rfl
  | validate pattern positives negatives =>
    rw [alone, RegexGolf.validate, Call.pattern]
    cases parse pattern <;> rfl
  | contains pattern positives negatives =>
    rw [alone, RegexGolf.contains, Call.pattern]
    cases parse pattern <;> rfl

theorem on_eq (m : Matcher) (c : Call) :
    c.on m = (m.regex c.pattern).map (Prod.map c.answer id) := by
  cases c with
  | regex pattern => rfl
  | validate pattern positives negatives =>
    rw [on, Matcher.validate, Call.pattern]
    cases m.regex pattern <;> rfl
  | contains pattern positives negatives =>
    rw [on, Matcher.contains, Call.pattern]
    cases m.regex pattern <;> rfl

theorem perform_eq (m : Matcher) (c : Call) : c.perform m = some (m.settle (c.on m)) := by
  rw [perform, fetch_eq, on_eq]
  cases m.regex c.pattern <;> rfl

theorem pattern_of_alone_error {c : Call} {e : PatternError} (fails : c.alone = .error e) :
    e.pattern = c.pattern := by
  rw [alone_eq] at fails
  cases read : parse c.pattern with
  | ok r =>
    rw [read] at fails
    cases fails
  | error d =>
    rw [read] at fails
    cases fails
    exact pattern_of_parse_error read

end Call

/-- A matcher knows the patterns that were asked for and can be read, once each. -/
structure Remembers (m : Matcher) (asked : List String) : Prop where
  once : (m.known.map (·.1)).Nodup
  known : ∀ pattern r, m.known.lookup pattern = some r ↔
    pattern ∈ asked ∧ parse pattern = .ok r

theorem remembers_empty : empty.Remembers [] := by
  constructor <;> simp [empty]

variable {m : Matcher} {asked : List String}

theorem Remembers.honest (h : m.Remembers asked) : m.Honest :=
  fun pattern r known => ((h.known pattern r).1 known).2

theorem Remembers.of_known (h : m.Remembers asked) {pattern : String}
    (old : ∀ r, parse pattern = .ok r → m.known.lookup pattern = some r) :
    m.Remembers (asked ++ [pattern]) where
  once := h.once
  known other r := by
    rw [h.known, List.mem_append, List.mem_singleton]
    constructor
    · exact fun held => ⟨.inl held.1, held.2⟩
    · rintro ⟨listed | rfl, read⟩
      · exact ⟨listed, read⟩
      · exact (h.known other r).1 (old r read)

theorem Remembers.add (h : m.Remembers asked) {pattern : String} {r : Regex}
    (new : m.known.lookup pattern = none) (read : parse pattern = .ok r) :
    Remembers ⟨(pattern, r) :: m.known⟩ (asked ++ [pattern]) where
  once := by
    refine List.nodup_cons.2 ⟨fun listed => ?_, h.once⟩
    obtain ⟨entry, member, same⟩ := List.mem_map.1 listed
    simpa [same] using List.lookup_eq_none_iff.1 new entry member
  known other s := by
    rw [List.lookup_cons, List.mem_append, List.mem_singleton]
    by_cases here : other = pattern
    · simp [here, read]
    · have different : (other == pattern) = false := beq_false_of_ne here
      simp [different, here, h.known]

/-- One call. The answer is the one without a matcher; a call that fails changes nothing. -/
theorem Remembers.call (h : m.Remembers asked) (c : Call) :
    ∃ left, c.on m = c.alone.map (·, left) ∧ left.Remembers (asked ++ [c.pattern]) ∧
      ∀ e, c.alone = .error e → left = m := by
  rw [Call.on_eq, Call.alone_eq]
  cases read : parse c.pattern with
  | error e =>
    rw [h.honest.regex_of_error read]
    exact ⟨m, rfl, h.of_known (by simp [read]), fun _ _ => rfl⟩
  | ok r =>
    cases known : m.known.lookup c.pattern with
    | some s =>
      have same : s = r := Except.ok.inj (((h.known _ s).1 known).2.symm.trans read)
      have old : ∀ t, parse c.pattern = .ok t → m.known.lookup c.pattern = some t := by
        intro t again
        rw [known, same, Except.ok.inj (read.symm.trans again)]
      exact ⟨m, by simp only [regex, known, same]; rfl, h.of_known old, fun _ _ => rfl⟩
    | none =>
      refine ⟨⟨(c.pattern, r) :: m.known⟩, by simp only [regex, known, read]; rfl,
        h.add known read, fun e fails => ?_⟩
      cases fails

/-- The answers to calls made in turn on one matcher, and the matcher after the last. -/
def history : Matcher → List Call → Option (List (Except PatternError Answer) × Matcher)
  | m, [] => some ([], m)
  | m, c :: rest => do
    let (answer, m) ← c.perform m
    let (answers, m) ← history m rest
    return (answer :: answers, m)

theorem Remembers.perform (h : m.Remembers asked) (c : Call) :
    ∃ left, c.perform m = some (c.alone, left) ∧ c.on m = c.alone.map (·, left) ∧
      left.Remembers (asked ++ [c.pattern]) ∧ ∀ e, c.alone = .error e → left = m := by
  obtain ⟨left, answered, remembers, same⟩ := h.call c
  refine ⟨left, ?_, answered, remembers, same⟩
  rw [Call.perform_eq, answered]
  cases outcome : c.alone with
  | ok a => rfl
  | error e => rw [same e outcome]; rfl

theorem Remembers.history (h : m.Remembers asked) (calls : List Call) :
    ∃ left, m.history calls = some (calls.map Call.alone, left) ∧
      left.Remembers (asked ++ calls.map Call.pattern) := by
  induction calls generalizing m asked with
  | nil => exact ⟨m, rfl, by simpa using h⟩
  | cons c rest ih =>
    obtain ⟨next, answered, -, remembers, -⟩ := h.perform c
    obtain ⟨left, answers, all⟩ := ih remembers
    refine ⟨left, ?_, by simpa using all⟩
    rw [Matcher.history, answered]
    simp [answers]

/-- Any calls, made in turn on a matcher that knows nothing at first, are answered as if there were
no matcher. Afterwards it knows what was asked for and can be read, and the next call finds the same:
it is answered as without a matcher, adds its own pattern, and changes nothing if it fails. -/
theorem history_transparent (calls : List Call) :
    ∃ m, empty.history calls = some (calls.map Call.alone, m) ∧
      m.Remembers (calls.map Call.pattern) ∧
      ∀ c : Call, ∃ left, c.perform m = some (c.alone, left) ∧ c.on m = c.alone.map (·, left) ∧
        left.Remembers (calls.map Call.pattern ++ [c.pattern]) ∧
        ∀ e, c.alone = .error e → left = m ∧ e.pattern = c.pattern := by
  obtain ⟨m, answered, remembers⟩ := remembers_empty.history calls
  rw [List.nil_append] at remembers
  refine ⟨m, answered, remembers, fun c => ?_⟩
  obtain ⟨left, performed, on, further, same⟩ := remembers.perform c
  exact ⟨left, performed, on, further, fun e fails =>
    ⟨same e fails, Call.pattern_of_alone_error fails⟩⟩

theorem history_transparent_parenthesis :
    ∃ m e, empty.history [.validate "a" ["xa"] ["b"]] = some ([.ok (.judgement true)], m) ∧
      m.Remembers ["a"] ∧ Call.perform m (.regex "(") = some (.error e, m) ∧ e.pattern = "(" := by
  obtain ⟨m, answered, remembers, next⟩ := history_transparent [.validate "a" ["xa"] ["b"]]
  obtain ⟨left, performed, -, -, same⟩ := next (.regex "(")
  obtain ⟨e, fails⟩ : ∃ e, Call.alone (.regex "(") = .error e := ⟨_, rfl⟩
  obtain ⟨rfl, pattern⟩ := same e fails
  have judged : Call.alone (.validate "a" ["xa"] ["b"]) = .ok (.judgement true) := rfl
  rw [List.map_singleton, judged] at answered
  exact ⟨left, e, answered, remembers, fails ▸ performed, pattern⟩

end Matcher

end RegexGolf
