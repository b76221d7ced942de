import RegexGolf.Cover
import RegexGolf.Fragment.Wildcard
import RegexGolf.Fragment.Window
import RegexGolf.Score.Weighted
import RegexGolf.WordLists

/-!
A whole run: fragments are cut out of the positives, widened, sifted into a coverage table, scored
and united into a pattern, which is judged at the end.
-/

namespace RegexGolf

inductive Scoring where
  | weighted (outcome : Score.Weighted)
  | simple (scores : Pool)
  deriving DecidableEq

namespace Scoring

def scores : Scoring → Pool
  | weighted outcome => outcome.scores
  | simple scores => scores

def picks : Scoring → List Score.Pick
  | weighted outcome => outcome.picks
  | simple _ => []

end Scoring

/-- What a run leaves behind. -/
structure Synthesis where
  /-- The number of fragments cut out of the positives. -/
  generated : Nat
  /-- Their number after widening. -/
  expanded : Nat
  /-- The number of fragments in the coverage table. -/
  filtered : Nat
  scoring : Scoring
  cover : Cover
  /-- Whether the pattern is valid. -/
  converged : Bool
  deriving DecidableEq

namespace Synthesis

def pattern (s : Synthesis) : String := s.cover.pattern

def candidates (s : Synthesis) : List (String × Nat) := s.scoring.scores.ranked

def scored (s : Synthesis) : Nat := s.scoring.scores.size

def selected (s : Synthesis) : Nat := Alternation.count s.pattern

def score (strategy : Strategy) (table : CoverageTable) (positives : List String) (m : Matcher) :
    Except Regex.PatternError (Scoring × Matcher) :=
  match strategy with
  | .weighted => do
    let (outcome, m) ← Score.weighted table positives m
    return (.weighted outcome, m)
  | .simple => .ok (.simple (Score.simple table positives.length), m)

/-- Runs over two lists as they are. -/
def run (lists : WordLists) (options : Options) : Except Regex.PatternError Synthesis := do
  let positives := lists.positives
  let negatives := lists.negatives
  let generated := Fragment.ofWords options.cutting positives
  let expanded := Fragment.expand generated
  let table ← Coverage.table expanded positives negatives
  let (scoring, m) ← score options.strategy table positives .empty
  let (cover, m) ← Cover.build scoring.scores positives negatives m
  let (converged, _) ← m.validate cover.pattern positives negatives
  return ⟨generated.size, expanded.size, table.length, scoring, cover, converged⟩

end Synthesis

/-- A run that found a valid pattern, with the lists it was found for. -/
structure Solution where
  lists : WordLists
  strategy : Strategy
  synthesis : Synthesis
  deriving DecidableEq

namespace Solution

def pattern (s : Solution) : String := s.synthesis.pattern

def candidates (s : Solution) : List (String × Nat) := s.synthesis.candidates

/-- The end of a run: without a valid pattern it is a failure. -/
def ofRun (lists : WordLists) (options : Options) :
    Except Regex.PatternError Synthesis → Except Error Solution
  | .error e => .error (.malformed e)
  | .ok s =>
    if s.converged then .ok ⟨lists, options.strategy, s⟩ else .error (.notConverged s.pattern)

end Solution

/-- Finds a pattern that matches every line of one block and no line of the other. -/
def solve (positive negative : String) (options : Options) : Except Error Solution := do
  let lists ← WordLists.ofBlocks positive negative
  Solution.ofRun lists options (Synthesis.run lists options)

end RegexGolf
