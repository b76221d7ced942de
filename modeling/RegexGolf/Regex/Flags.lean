import RegexGolf.Regex.Basic
import RegexGolf.Regex.Fault

/-!
The modes of a pattern, and how they bear on the meaning of its signs.
-/

namespace RegexGolf.Regex

structure Flags where
  caseless : Bool := false
  multiLine : Bool := false
  dotAll : Bool := false
  crlf : Bool := false
  unicode : Bool := true
  verbose : Bool := false
  deriving DecidableEq, Repr

namespace Flags

def fold (f : Flags) (set : CharSet) : CharSet :=
  if f.caseless then set.fold f.unicode else set

/-- Outside the Unicode mode a set must stay within ASCII, lest it match half a character. -/
def confine (f : Flags) (span : Span) (set : CharSet) : Option Issue :=
  if !f.unicode && set.leavesAscii then some ⟨.invalidUtf8, span, none⟩ else none

def foldNegate (f : Flags) (negated : Bool) (set : CharSet) : CharSet :=
  if negated then .compl (f.fold set) else f.fold set

def lineStart (f : Flags) : Look := if f.multiLine then .lineStart f.crlf else .textStart

def lineEnd (f : Flags) : Look := if f.multiLine then .lineEnd f.crlf else .textEnd

def dot (f : Flags) : CharSet :=
  if f.dotAll then .all
  else if f.crlf then .compl (.unions [.single '\r', .single '\n'])
  else .compl (.single '\n')

end Flags

/-- The signs that stand for modes. Greediness can be swapped, which no search can tell. -/
inductive Flag where
  | caseless
  | multiLine
  | dotAll
  | swapGreed
  | crlf
  | unicode
  | verbose
  deriving DecidableEq, Repr

namespace Flag

def ofChar? : Char → Option Flag
  | 'i' => some caseless
  | 'm' => some multiLine
  | 's' => some dotAll
  | 'U' => some swapGreed
  | 'R' => some crlf
  | 'u' => some unicode
  | 'x' => some verbose
  | _ => none

def set (flag : Flag) (on : Bool) (f : Flags) : Flags :=
  match flag with
  | caseless => { f with caseless := on }
  | multiLine => { f with multiLine := on }
  | dotAll => { f with dotAll := on }
  | swapGreed => f
  | crlf => { f with crlf := on }
  | unicode => { f with unicode := on }
  | verbose => { f with verbose := on }

end Flag

end RegexGolf.Regex
