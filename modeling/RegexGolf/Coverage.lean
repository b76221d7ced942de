import RegexGolf.Matcher
import RegexGolf.Pool

/-!
Which fragments are worth scoring. A fragment is kept if it matches some positive and no negative,
and the table notes which positives those are, so that scoring need not search again.
-/

namespace RegexGolf

/-- A fragment with the places of the positives that it matches. -/
structure Coverage where
  fragment : String
  hits : List Nat
  deriving DecidableEq, Repr

abbrev CoverageTable := List Coverage

namespace Coverage

def hitsOf (r : Regex) (words : List String) : List Nat :=
  (words.zipIdx.filter fun entry => r.isMatch entry.1).map (·.2)

def of? (fragment : String) (r : Regex) (positives negatives : List String) :
    Option Coverage :=
  if negatives.any r.isMatch then none
  else
    let hits := hitsOf r positives
    if hits.isEmpty then none else some ⟨fragment, hits⟩

/-- The table of a list of fragments; the first that cannot be read is reported. -/
def ofFragments (positives negatives : List String) :
    List String → Except Regex.PatternError CoverageTable
  | [] => .ok []
  | f :: rest => do
    let r ← Regex.parse f
    let table ← ofFragments positives negatives rest
    return (of? f r positives negatives).toList ++ table

def table (p : Pool) (positives negatives : List String) :
    Except Regex.PatternError CoverageTable :=
  ofFragments positives negatives p.keys

end Coverage

end RegexGolf
