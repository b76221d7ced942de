import RegexGolf.Regex.Parser
import RegexGolf.Regex.Search

/-!
Judging patterns by the two lists. A pattern is *valid* when it matches every positive and no
negative, and *contained* when it matches at least one positive and no negative. A matcher keeps
the expressions of the patterns it has read, so that none is read twice.
-/

namespace RegexGolf

namespace Regex

def validates (r : Regex) (positives negatives : List String) : Bool :=
  positives.all r.isMatch && !negatives.any r.isMatch

def isContained (r : Regex) (positives negatives : List String) : Bool :=
  positives.any r.isMatch && !negatives.any r.isMatch

end Regex

def validate (pattern : String) (positives negatives : List String) :
    Except Regex.PatternError Bool := do
  return (← Regex.parse pattern).validates positives negatives

def contains (pattern : String) (positives negatives : List String) :
    Except Regex.PatternError Bool := do
  return (← Regex.parse pattern).isContained positives negatives

/-- The patterns read so far with their expressions. -/
structure Matcher where
  known : List (String × Regex)

namespace Matcher

def empty : Matcher := ⟨[]⟩

def regex (m : Matcher) (pattern : String) : Except Regex.PatternError (Regex × Matcher) :=
  match m.known.lookup pattern with
  | some r => .ok (r, m)
  | none =>
    match Regex.parse pattern with
    | .error e => .error e
    | .ok r => .ok (r, ⟨(pattern, r) :: m.known⟩)

def validate (m : Matcher) (pattern : String) (positives negatives : List String) :
    Except Regex.PatternError (Bool × Matcher) := do
  let (r, m) ← m.regex pattern
  return (r.validates positives negatives, m)

def contains (m : Matcher) (pattern : String) (positives negatives : List String) :
    Except Regex.PatternError (Bool × Matcher) := do
  let (r, m) ← m.regex pattern
  return (r.isContained positives negatives, m)

end Matcher

end RegexGolf
