/-!
Intervals of code points as sequences of bytes. An interval is cut until the code points of each
piece share all but their last bytes in such a way that every byte ranges independently of the
others; a piece is then one path of byte ranges. Surrogates have no encoding and are left out.
-/

namespace RegexGolf.Regex.Utf8

structure ByteRange where
  first : Nat
  last : Nat
  deriving DecidableEq, Repr

abbrev Path := List ByteRange

def encode (n : Nat) : List Nat :=
  if n < 0x80 then [n]
  else if n < 0x800 then [0xC0 + n / 64, 0x80 + n % 64]
  else if n < 0x10000 then [0xE0 + n / 4096, 0x80 + n / 64 % 64, 0x80 + n % 64]
  else [0xF0 + n / 262144, 0x80 + n / 4096 % 64, 0x80 + n / 64 % 64, 0x80 + n % 64]

/-- The last code points that take one, two and three bytes. -/
def lengthEnds : List Nat := [0x7F, 0x7FF, 0xFFFF]

/-- How many code points share all bytes but the last one, two and three. -/
def blockSizes : List Nat := [64, 4096, 262144]

/-- Where to cut an interval that leaves its first block and does not fill a whole number of blocks:
behind its first block, or else before its last. -/
def cutAtBlock? (lo hi size : Nat) : Option Nat :=
  if lo / size = hi / size then none
  else if lo % size ≠ 0 then some (lo / size * size + size)
  else if hi % size ≠ size - 1 then some (hi / size * size)
  else none

def cut? (lo hi : Nat) : Option (Nat × Nat) :=
  if hi < lo then none
  else if lo < 0xE000 ∧ 0xD7FF < hi then some (0xD7FF, 0xE000)
  else
    match lengthEnds.find? fun m => lo ≤ m && m < hi with
    | some m => some (m, m + 1)
    | none =>
      if hi < 0x80 then none
      else (blockSizes.findSome? (cutAtBlock? lo hi)).map fun next => (next - 1, next)

/-- The paths of an interval, in increasing order. A dozen cuts, one inside the other, reach every
piece. -/
def pathsWithin : Nat → Nat → Nat → List Path
  | 0, _, _ => []
  | fuel + 1, lo, hi =>
    match cut? lo hi with
    | some (stop, next) => pathsWithin fuel lo stop ++ pathsWithin fuel next hi
    | none =>
      if hi < lo then [] else [List.zipWith ByteRange.mk (encode lo) (encode hi)]

def paths (lo hi : Nat) : List Path := pathsWithin 16 lo hi

end RegexGolf.Regex.Utf8
