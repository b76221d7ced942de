import RegexGolf.Regex.Basic

/-!
Searching a text. The positions of a text of length `n` are `0` to `n`, and a set of positions is
the number whose binary digits mark its members. An expression moves a set of positions to the set
of all positions where a match that starts in it can stop; a text has a match when the set of all
positions is not moved to the empty one.
-/

namespace RegexGolf.Regex

def marks {α : Type} (p : α → Bool) : List α → Nat
  | [] => 0
  | a :: rest => (if p a then 1 else 0) + 2 * marks p rest

theorem testBit_marks {α : Type} (p : α → Bool) (l : List α) (i : Nat) :
    (marks p l).testBit i = l[i]?.any p := by
  induction l generalizing i with
  | nil => simp [marks]
  | cons a rest ih =>
    cases i with
    | zero => cases h : p a <;> simp [marks, h, Nat.testBit_zero]
    | succ i =>
      rw [Nat.testBit_succ, show marks p (a :: rest) / 2 = marks p rest by
        simp only [marks]; split <;> omega, ih]
      simp

def gapsFrom (before : Option Char) : List Char → List Gap
  | [] => [⟨before, none⟩]
  | c :: rest => ⟨before, some c⟩ :: gapsFrom (some c) rest

def gaps (text : List Char) : List Gap := gapsFrom none text

def times (move : Nat → Nat) : Nat → Nat → Nat
  | 0, s => s
  | k + 1, s =>
    let t := move s
    if t = s then s else times move k t

def upTo (move : Nat → Nat) : Nat → Nat → Nat
  | 0, s => s
  | k + 1, s =>
    let t := s ||| move s
    if t = s then s else upTo move k t

/-- What any number of applications reach, given the positions that have been moved already and
those that are reached so far. A map that moves every position by itself need not move one twice. -/
def reach (move : Nat → Nat) : Nat → Nat → Nat → Nat
  | 0, _, reached => reached
  | k + 1, moved, reached =>
    let fresh := reached ^^^ (reached &&& moved)
    if fresh = 0 then reached else reach move k (moved ||| fresh) (reached ||| move fresh)

/-- Where the matches stop that start at one of the given positions. Without an upper bound on the
copies, one round for each position is enough: a round that adds none is the last. -/
def advance (text : List Char) : Regex → Nat → Nat
  | empty, s => s
  | char set, s => (s &&& marks set.contains text) <<< 1
  | look l, s => s &&& marks l.holds (gaps text)
  | seq a b, s => advance text b (advance text a s)
  | alt a b, s => advance text a s ||| advance text b s
  | repeated r 0 none, s => reach (advance text r) (text.length + 1) 0 s
  | repeated r (least + 1) none, s =>
    let t := times (advance text r) least s
    reach (advance text r) (text.length + 1) t (advance text r t)
  | repeated r least (some most), s =>
    upTo (advance text r) (most - least) (times (advance text r) least s)
  | group _ r, s => advance text r s

def everywhere (text : List Char) : Nat := 1 <<< (text.length + 1) - 1

def matchesChars (r : Regex) (text : List Char) : Bool := advance text r (everywhere text) != 0

def isMatch (r : Regex) (text : String) : Bool := r.matchesChars text.toList

end RegexGolf.Regex
