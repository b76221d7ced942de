/-!
Sets of characters listed as runs of code points. A run may take every code point between its ends
or only every second, third and so on. The written form lists the runs in increasing order, in hexadecimal, separated
by blanks: `30-39 41 61-65/2` holds the ten digits, `A`, `a`, `c` and `e`.
-/

namespace RegexGolf.Unicode

structure Run where
  first : Nat
  last : Nat
  step : Nat
  deriving DecidableEq, Repr

/-- Runs in increasing order that do not overlap. -/
structure Ranges where
  runs : List Run
  deriving DecidableEq, Repr

namespace Ranges

def empty : Ranges := ⟨[]⟩

/-- The search ends at the first run that starts behind the code point. -/
def holds (n : Nat) : List Run → Bool
  | [] => false
  | r :: rest =>
    if n < r.first then false
    else if n ≤ r.last then (n - r.first) % r.step == 0
    else holds n rest

def contains (s : Ranges) (c : Char) : Bool := holds c.toNat s.runs

def hexDigit (c : Char) : Nat :=
  if '0' ≤ c ∧ c ≤ '9' then c.toNat - '0'.toNat
  else if 'A' ≤ c ∧ c ≤ 'F' then c.toNat - 'A'.toNat + 10
  else 0

/-- What has been read of the written form: finished runs, newest first, and the run at hand. -/
structure Reading where
  finished : List Run
  first : Option Nat
  last : Option Nat
  step : Option Nat

namespace Reading

def close (r : Reading) : Reading :=
  match r.first with
  | none => r
  | some a =>
    let run : Run := ⟨a, r.last.getD a, r.step.getD 1⟩
    ⟨run :: r.finished, none, none, none⟩

def read (r : Reading) (c : Char) : Reading :=
  if c = ' ' ∨ c = '\n' then r.close
  else if c = '-' then { r with last := some 0 }
  else if c = '/' then { r with step := some 0 }
  else match r.step, r.last with
    | some k, _ => { r with step := some (k * 16 + hexDigit c) }
    | none, some b => { r with last := some (b * 16 + hexDigit c) }
    | none, none => { r with first := some (r.first.getD 0 * 16 + hexDigit c) }

end Reading

def ofHex (text : String) : Ranges :=
  ⟨(text.foldl Reading.read ⟨[], none, none, none⟩).close.finished.reverse⟩

end Ranges

end RegexGolf.Unicode
