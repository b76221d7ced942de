/-!
Patterns as lists of alternatives, written with `|` between them.
-/

namespace RegexGolf.Alternation

def join (parts : List String) : String := "|".intercalate parts

/-- The alternatives of a pattern, cut at every `|`. -/
def split (pattern : String) : List String := (pattern.toList.splitOn '|').map String.ofList

/-- How many alternatives a pattern has; the empty pattern has none. -/
def count (pattern : String) : Nat := if pattern.isEmpty then 0 else (split pattern).length

end RegexGolf.Alternation
