/-!
Runs of code points that are moved together, as alphabets are when the case of a letter changes.
-/

namespace RegexGolf.Unicode

/-- The code points `first`, `first + step`, … up to `last` move to `target`, `target + step`, …. -/
structure Shift where
  first : Nat
  last : Nat
  step : Nat
  target : Nat
  deriving DecidableEq, Repr

namespace Shift

def image? (s : Shift) (n : Nat) : Option Nat :=
  if s.first ≤ n ∧ n ≤ s.last ∧ (n - s.first) % s.step = 0 then some (s.target + (n - s.first))
  else none

def inverse (s : Shift) : Shift :=
  ⟨s.target, s.target + (s.last - s.first), s.step, s.first⟩

end Shift

end RegexGolf.Unicode
