import RegexGolf.Regex.Classes

/-!
Regular expressions as data. Greedy and lazy repetition differ only in where a match is reported, not
in whether there is one, so they are not told apart. A group matches what it holds; groups are kept
because they bear on the room that an expression takes.
-/

namespace RegexGolf

namespace Regex

inductive WordEdge where
  | boundary
  | inside
  | start
  | stop
  | startHalf
  | stopHalf
  deriving DecidableEq, Repr

inductive Look where
  | textStart
  | textEnd
  | lineStart (crlf : Bool)
  | lineEnd (crlf : Bool)
  | word (edge : WordEdge) (unicode : Bool)
  deriving DecidableEq, Repr

/-- A position of a text, seen from both sides. -/
structure Gap where
  before : Option Char
  after : Option Char
  deriving DecidableEq, Repr

def WordEdge.fits : WordEdge → Bool → Bool → Bool
  | boundary, before, after => before != after
  | inside, before, after => before == after
  | start, before, after => !before && after
  | stop, before, after => before && !after
  | startHalf, before, _ => !before
  | stopHalf, _, after => !after

namespace Look

/-- With `crlf` a carriage return ends a line too, and no line ends inside a CR LF pair. -/
def holds : Look → Gap → Bool
  | textStart, g => g.before.isNone
  | textEnd, g => g.after.isNone
  | lineStart false, g => g.before.isNone || g.before == some '\n'
  | lineStart true, g =>
    g.before.isNone || g.before == some '\n' || (g.before == some '\r' && g.after != some '\n')
  | lineEnd false, g => g.after.isNone || g.after == some '\n'
  | lineEnd true, g =>
    g.after.isNone || g.after == some '\r' || (g.after == some '\n' && g.before != some '\r')
  | word edge unicode, g =>
    let set := CharSet.word unicode
    edge.fits (g.before.any set.contains) (g.after.any set.contains)

end Look

end Regex

inductive Regex where
  | empty
  | char (set : Regex.CharSet)
  | look (l : Regex.Look)
  | seq (a b : Regex)
  | alt (a b : Regex)
  /-- At least `least` and, if given, at most `most` copies in a row. -/
  | repeated (r : Regex) (least : Nat) (most : Option Nat)
  /-- A pair of parentheses, which may capture what it matches. -/
  | group (captures : Bool) (r : Regex)
  deriving DecidableEq, Repr

namespace Regex

def concat : List Regex → Regex
  | [] => empty
  | [r] => r
  | r :: rest => seq r (concat rest)

/-- Any one of the expressions; of none at all, the empty one. -/
def anyOf : List Regex → Regex
  | [] => empty
  | [r] => r
  | r :: rest => alt r (anyOf rest)

end Regex

end RegexGolf
