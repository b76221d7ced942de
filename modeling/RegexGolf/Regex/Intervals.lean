import RegexGolf.Regex.CharSet
import RegexGolf.Sorting

/-!
Sets as intervals of code points. The description of a set is worked out into the intervals that
make it up: increasing, disjoint and as large as they can be.
-/

namespace RegexGolf.Regex

open Unicode

/-- Intervals of code points, both ends included. -/
abbrev Intervals := List (Nat × Nat)

namespace Intervals

/-- Joins what overlaps or touches in a list that increases by the first ends. -/
def join : Intervals → Intervals
  | [] => []
  | i :: rest => go i rest
where
  go (i : Nat × Nat) : Intervals → Intervals
    | [] => [i]
    | j :: rest =>
      if j.1 ≤ i.2 + 1 then go (i.1, max i.2 j.2) rest else i :: go j rest

def union (a b : Intervals) : Intervals := join (Sorting.merge (fun i j => i.1 ≤ j.1) a b)

/-- An interval without surrogates at its ends, if anything is left of it. -/
def trim? (lo hi : Nat) : Option (Nat × Nat) :=
  let lo := if 0xD800 ≤ lo ∧ lo ≤ 0xDFFF then 0xE000 else lo
  let hi := if 0xD800 ≤ hi ∧ hi ≤ 0xDFFF then 0xD7FF else hi
  if lo ≤ hi then some (lo, hi) else none

def gapsFrom (start : Nat) : Intervals → Intervals
  | [] => (trim? start 0x10FFFF).toList
  | i :: rest =>
    (if start < i.1 then (trim? start (i.1 - 1)).toList else []) ++ gapsFrom (i.2 + 1) rest

def compl (a : Intervals) : Intervals := gapsFrom 0 a

def diff (a b : Intervals) : Intervals := (a.compl.union b).compl

def inter (a b : Intervals) : Intervals := (a.compl.union b.compl).compl

def ofRun (r : Run) : Intervals :=
  if r.step ≤ 1 then [(r.first, r.last)]
  else (List.range ((r.last - r.first) / r.step + 1)).map fun k =>
    (r.first + k * r.step, r.first + k * r.step)

def ofPoints (points : List Nat) : Intervals :=
  join ((Sorting.sort (· ≤ ·) points).map fun n => (n, n))

def within (i : Nat × Nat) (s : Shift) : List Nat :=
  if i.2 < s.first ∨ s.last < i.1 then []
  else
    let start := s.first + (i.1 - s.first + s.step - 1) / s.step * s.step
    let stop := min i.2 s.last
    if stop < start then []
    else (List.range ((stop - start) / s.step + 1)).map fun k => start + k * s.step

def variants (a : Intervals) : List Nat :=
  let moves := CaseFold.pairs ++ CaseFold.pairs.map Shift.inverse
  (moves.flatMap fun s => a.flatMap fun i => (within i s).filterMap s.image?) ++
    CaseFold.groups.flatMap fun g =>
      if g.any fun n => a.any fun i => i.1 ≤ n && n ≤ i.2 then g else []

def asciiVariants (a : Intervals) : List Nat :=
  [(⟨0x41, 0x5A, 1, 0x61⟩ : Shift), ⟨0x61, 0x7A, 1, 0x41⟩].flatMap fun s =>
    a.flatMap fun i => (within i s).filterMap s.image?

end Intervals

def CharSet.intervals : CharSet → Intervals
  | interval lo hi => if lo ≤ hi then [(lo.toNat, hi.toNat)] else []
  | listed ranges => .join (ranges.runs.flatMap Intervals.ofRun)
  | union a b => a.intervals.union b.intervals
  | inter a b => a.intervals.inter b.intervals
  | diff a b => a.intervals.diff b.intervals
  | symmDiff a b =>
    (a.intervals.diff b.intervals).union (b.intervals.diff a.intervals)
  | compl a => a.intervals.compl
  | caseless unicode a =>
    let plain := a.intervals
    plain.union (.ofPoints (if unicode then plain.variants else plain.asciiVariants))

end RegexGolf.Regex
