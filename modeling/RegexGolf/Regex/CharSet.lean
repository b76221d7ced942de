import RegexGolf.Unicode.CaseFold
import RegexGolf.Unicode.Ranges

/-!
Sets of characters as patterns describe them: intervals and listed ranges, joined by the usual set
operations and closed under change of case. A set is a description; `contains` is its meaning.
-/

namespace RegexGolf.Regex

open Unicode

inductive CharSet where
  | interval (lo hi : Char)
  | listed (ranges : Ranges)
  | union (a b : CharSet)
  | inter (a b : CharSet)
  | diff (a b : CharSet)
  | symmDiff (a b : CharSet)
  | compl (a : CharSet)
  /-- Every character that differs from a member in case only, by the standard or among ASCII
  letters only. -/
  | caseless (unicode : Bool) (a : CharSet)
  deriving DecidableEq, Repr

namespace CharSet

def contains : CharSet → Char → Bool
  | interval lo hi, c => lo ≤ c && c ≤ hi
  | listed ranges, c => ranges.contains c
  | union a b, c => a.contains c || b.contains c
  | inter a b, c => a.contains c && b.contains c
  | diff a b, c => a.contains c && !b.contains c
  | symmDiff a b, c => a.contains c != b.contains c
  | compl a, c => !a.contains c
  | caseless unicode a, c => (CaseFold.variants unicode c).any a.contains

def single (c : Char) : CharSet := interval c c

def none : CharSet := listed .empty

def all : CharSet := compl none

theorem contains_single (a c : Char) : (single a).contains c = decide (c = a) := by
  simp only [single, contains, ← Bool.decide_and, decide_eq_decide]
  exact ⟨fun h => Char.le_antisymm h.2 h.1, fun h => h ▸ ⟨Char.le_refl _, Char.le_refl _⟩⟩

def unions (sets : List CharSet) : CharSet := sets.foldr union none

def isFolded (unicode : Bool) : CharSet → Bool
  | interval _ _ => false
  | listed ranges => ranges.runs.isEmpty
  | union a b | inter a b | diff a b | symmDiff a b => a.isFolded unicode && b.isFolded unicode
  | compl a => a.isFolded unicode
  | caseless kind _ => kind == unicode

/-- Closes a set under change of case. A union is closed part by part, and what is closed already is
left alone, so that a member that lies in many classes is closed once. -/
def fold (unicode : Bool) : CharSet → CharSet
  | union a b => union (a.fold unicode) (b.fold unicode)
  | s => if s.isFolded unicode then s else caseless unicode s

/-- Whether a set reaches past ASCII into the second half of the byte range. -/
def leavesAscii (s : CharSet) : Bool :=
  (List.range 128).any fun i => s.contains (Char.ofNat (128 + i))

end CharSet

end RegexGolf.Regex
