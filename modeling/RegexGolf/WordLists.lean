import RegexGolf.Error
import RegexGolf.Text.Lines

/-!
The two lists of words that a pattern has to tell apart. Positives keep their order and their
repetitions; negatives are listed once each and never when they are positives too.
-/

namespace RegexGolf

structure WordLists where
  positives : List String
  negatives : List String
  deriving DecidableEq, Repr

namespace WordLists

/-- Drops every word that was seen before or stands further left. -/
def keepNew (seen : List String) : List String → List String
  | [] => []
  | w :: rest => if seen.contains w then keepNew seen rest else w :: keepNew (w :: seen) rest

def disjoint (positives negatives : List String) : List String := keepNew positives negatives

/-- The lists that two blocks of lines describe. An empty block is refused, the positive one
first. -/
def ofBlocks (positive negative : String) : Except Error WordLists :=
  if positive.isEmpty then .error (.emptyBlock .positive)
  else if negative.isEmpty then .error (.emptyBlock .negative)
  else
    let positives := Text.Lines.split positive
    .ok ⟨positives, disjoint positives (Text.Lines.split negative)⟩

end WordLists

end RegexGolf
