import RegexGolf.Alternation
import RegexGolf.Matcher
import RegexGolf.Pool

/-!
Building the pattern. Fragments are tried by descending score and appended as alternatives when
they match no negative and some positive that no earlier alternative matches; the first valid
pattern ends the search.
-/

namespace RegexGolf

/-- An appended fragment, its score and the number of positives then left uncovered. -/
structure Part where
  fragment : String
  score : Nat
  remaining : Nat
  deriving DecidableEq, Repr

abbrev Cover := List Part

namespace Cover

def pattern (c : Cover) : String := Alternation.join (c.map (·.fragment))

def extend (positives negatives : List String) (left : List String) (found : Cover)
    (m : Matcher) : List (String × Nat) → Except Regex.PatternError (Cover × Matcher)
  | [] => .ok (found, m)
  | (fragment, score) :: rest => do
    let (useful, m) ← m.contains fragment left negatives
    if useful then
      let (r, m) ← m.regex fragment
      let left := left.filter fun w => !r.isMatch w
      let found := found ++ [⟨fragment, score, left.length⟩]
      let (valid, m) ← m.validate (pattern found) positives negatives
      if valid then return (found, m)
      else extend positives negatives left found m rest
    else extend positives negatives left found m rest

def build (scored : Pool) (positives negatives : List String) (m : Matcher) :
    Except Regex.PatternError (Cover × Matcher) :=
  extend positives negatives positives [] m scored.ranked

end Cover

end RegexGolf
