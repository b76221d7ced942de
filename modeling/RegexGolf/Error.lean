import RegexGolf.Regex.Fault
import RegexGolf.Text.Quoted

/-!
Why the library may fail to answer, and how that is told.
-/

namespace RegexGolf

inductive Side where
  | positive
  | negative
  deriving DecidableEq, Repr

def Side.label : Side → String
  | positive => "positive block"
  | negative => "negative block"

inductive Error where
  | emptyBlock (side : Side)
  /-- No pattern tells the lists apart; `bestEffort` is the one that came closest. -/
  | notConverged (bestEffort : String)
  | malformed (reason : Regex.PatternError)
  | unknownPuzzle (id : String)
  | missingBlock (side : Side)
  deriving DecidableEq, Repr

namespace Error

open Text.Quoted

def message : Error → String
  | emptyBlock side => "invalid input: " ++ side.label ++ " is empty"
  | notConverged bestEffort =>
    "no discriminating pattern found (best effort: " ++ quote bestEffort ++ ")"
  | malformed reason => "invalid pattern " ++ quote reason.pattern ++ ": " ++ reason.message
  | unknownPuzzle id => "unable to find puzzle with id " ++ quote id
  | missingBlock side => "missing parameter: " ++ side.label

end Error

end RegexGolf
