import RegexGolf.Regex.Fault

/-!
Parts of a pattern that have been read. Two judgements about a part wait until the whole pattern
is known to be well formed: how deeply it nests, and whether its meaning is admissible.
-/

namespace RegexGolf.Regex

structure Parsed (α : Type) where
  value : α
  span : Span
  /-- The first part, in reading order, that lies below more than the given number of levels. -/
  tooDeep : Nat → Option Span
  /-- The first reason, in reading order, why the meaning is not admissible. -/
  issue : Option Issue

namespace Parsed

variable {α β : Type}

def leaf (value : α) (span : Span) (issue : Option Issue := none) : Parsed α :=
  ⟨value, span, fun _ => none, issue⟩

/-- A part that adds one level around its children. An issue of its own comes after theirs. -/
def node (value : β) (span : Span) (children : List (Parsed α)) (issue : Option Issue := none) :
    Parsed β where
  value := value
  span := span
  tooDeep
    | 0 => some span
    | n + 1 => children.findSome? fun child => child.tooDeep n
  issue := children.findSome? (·.issue) <|> issue

end Parsed

end RegexGolf.Regex
