import RegexGolf.Regex.Escape
import RegexGolf.Regex.Parsed

/-!
Bracketed character classes: members, ranges, inner classes and set operations. Operations are
applied from left to right and bind less tightly than standing side by side.
-/

namespace RegexGolf.Regex

namespace Class

inductive SetOp where
  | intersection
  | difference
  | symmetricDifference
  deriving DecidableEq, Repr

def SetOp.apply : SetOp → CharSet → CharSet → CharSet
  | intersection => .inter
  | difference => .diff
  | symmetricDifference => .symmDiff

/-- A class that is still open: the part that opens it, the left side of an operation that waits
for its right side, and the members of the current side, newest first. -/
structure Level where
  opening : Span
  negated : Bool
  waiting : Option (SetOp × Parsed CharSet)
  sideStart : Nat
  members : List (Parsed CharSet)

namespace Level

def add (l : Level) (item : Parsed CharSet) : Level := { l with members := item :: l.members }

def side (l : Level) : Parsed CharSet :=
  match l.members.reverse with
  | [] => .leaf .none (.point l.sideStart)
  | [item] => item
  | item :: rest =>
    let last := rest.getLast?.getD item
    .node (.unions ((item :: rest).map (·.value))) ⟨item.span.start, last.span.stop⟩ (item :: rest)

/-- Everything read so far as one. Both sides are closed under case before the operation. -/
def content (f : Flags) (l : Level) : Parsed CharSet :=
  match l.waiting with
  | none => l.side
  | some (op, left) =>
    let right := l.side
    .node (op.apply (f.fold left.value) (f.fold right.value))
      ⟨left.span.start, right.span.stop⟩ [left, right]

def operate (f : Flags) (op : SetOp) (l : Level) (pos : Nat) : Level :=
  { l with waiting := some (op, l.content f), sideStart := pos, members := [] }

def close (f : Flags) (l : Level) (stop : Nat) : Parsed CharSet :=
  let inner := l.content f
  let span : Span := ⟨l.opening.start, stop⟩
  let set := f.foldNegate l.negated inner.value
  .node set span [inner] (f.confine span set)

end Level

/-- Hyphens right behind the opening are members. -/
def hyphens (verbose : Bool) (opening : Nat) :
    Nat → List (Parsed CharSet) → Cursor → Except Issue (List (Parsed CharSet) × Cursor)
  | 0, members, c => .ok (members, c)
  | fuel + 1, members, c =>
    match c.rest with
    | '-' :: _ =>
      let after := c.nextSign verbose
      if after.rest.isEmpty then refuse .classUnclosed (.point opening)
      else hyphens verbose opening fuel (.leaf (.single '-') c.char :: members) after
    | _ => .ok (members, c)

/-- Opens a class; the cursor stands on its bracket. A closing bracket in the first place is a
member, so that no class is empty. -/
def openLevel (verbose : Bool) (c : Cursor) : Except Issue (Level × Cursor) := do
  let opening := c.pos
  let c := c.nextSign verbose
  if c.rest.isEmpty then refuse .classUnclosed (c.since opening)
  let negated := c.rest.head? == some '^'
  let c := if negated then c.nextSign verbose else c
  if c.rest.isEmpty then refuse .classUnclosed (c.since opening)
  let sideStart := c.pos
  let (members, c) ← hyphens verbose opening c.rest.length [] c
  let (members, c) ←
    if members.isEmpty && c.rest.head? == some ']' then
      let after := c.nextSign verbose
      if after.rest.isEmpty then refuse .classUnclosed (after.since opening)
      else pure ([.leaf (.single ']') c.char], after)
    else pure (members, c)
  return (⟨c.since opening, negated, none, sideStart, members⟩, c)

/-- A named ASCII class such as `[:alpha:]`. What merely begins like one is left to be read as an
inner class. -/
def asciiClass? (f : Flags) (c : Cursor) : Option (Parsed CharSet × Cursor) := do
  let inside ← c.over? ['[', ':']
  let negated := inside.rest.head? == some '^'
  let inside := if negated then inside.next else inside
  let name := inside.rest.takeWhile (· != ':')
  let after ← (inside.drop name.length).over? [':', ']']
  let set ← CharSet.named? (.ofList name)
  let span := after.since c.pos
  let set := f.foldNegate negated set
  return (.leaf set span (f.confine span set), after)

def sign (f : Flags) (c : Cursor) : Except Issue Sign :=
  match c.rest with
  | [] => refuse .classUnclosed c.here
  | '\\' :: _ => Escape.read f c
  | ch :: _ => .ok ⟨.literal ch false, c.char, c.next⟩

def literalIssue (f : Flags) (ch : Char) (byte : Bool) (span : Span) : Option Issue :=
  if f.unicode || ch.toNat < 128 then none
  else some ⟨if byte then .invalidUtf8 else .unicodeNotAllowed, span, none⟩

def member (f : Flags) (s : Sign) : Except Issue (Parsed CharSet) :=
  match s.atom with
  | .literal ch byte => .ok (.leaf (.single ch) s.span (literalIssue f ch byte s.span))
  | .set set issue => .ok (.leaf set s.span issue)
  | .look _ => refuse .classEscapeInvalid s.span

def rangeEnd (s : Sign) : Except Issue (Char × Bool) :=
  match s.atom with
  | .literal ch byte => .ok (ch, byte)
  | _ => refuse .classRangeLiteral s.span

/-- The sign behind the next one, as far as the reading of a hyphen looks ahead: blanks and one
`#` are passed over in the verbose mode. -/
def peek? (verbose : Bool) (c : Cursor) : Option Char :=
  let rest := c.rest.drop 1
  if !verbose then rest.head?
  else
    match rest.dropWhile isBlank with
    | '#' :: more =>
      match more.dropWhile isBlank with
      | [] => rest.head?
      | ch :: _ => some ch
    | [] => rest.head?
    | ch :: _ => some ch

def range (f : Flags) (opening : Span) (c : Cursor) :
    Except Issue (Parsed CharSet × Cursor) := do
  let first ← sign f c
  let c := first.cursor.skip f.verbose
  if c.rest.isEmpty then refuse .classUnclosed opening
  let ahead := peek? f.verbose c
  if c.rest.head? != some '-' || ahead == some ']' || ahead == some '-' then
    return (← member f first, c)
  let c := c.nextSign f.verbose
  if c.rest.isEmpty then refuse .classUnclosed opening
  let last ← sign f c
  let (lo, loByte) ← rangeEnd first
  let (hi, hiByte) ← rangeEnd last
  let span : Span := ⟨first.span.start, last.span.stop⟩
  if hi < lo then refuse .classRangeInvalid span
  let issue := literalIssue f lo loByte first.span <|> literalIssue f hi hiByte last.span
  return (.leaf (.interval lo hi) span issue, last.cursor)

/-- Reads on in the innermost open class; the classes around it wait, innermost first. -/
def loop (f : Flags) : Nat → List Level → Level → Cursor → Except Issue (Parsed CharSet × Cursor)
  | 0, _, level, _ => refuse .classUnclosed level.opening
  | fuel + 1, outer, level, c => do
    let c := c.skip f.verbose
    match c.rest with
    | [] => refuse .classUnclosed level.opening
    | '[' :: _ =>
      match asciiClass? f c with
      | some (item, after) => loop f fuel outer (level.add item) after
      | none =>
        let (inner, after) ← openLevel f.verbose c
        loop f fuel (level :: outer) inner after
    | ']' :: _ =>
      let closed := level.close f c.next.pos
      match outer with
      | [] => return (closed, c.next)
      | parent :: rest => loop f fuel rest (parent.add closed) c.next
    | '&' :: '&' :: _ => loop f fuel outer (level.operate f .intersection (c.pos + 2)) (c.drop 2)
    | '-' :: '-' :: _ => loop f fuel outer (level.operate f .difference (c.pos + 2)) (c.drop 2)
    | '~' :: '~' :: _ =>
      loop f fuel outer (level.operate f .symmetricDifference (c.pos + 2)) (c.drop 2)
    | _ =>
      let (item, after) ← range f level.opening c
      loop f fuel outer (level.add item) after

def read (f : Flags) (c : Cursor) : Except Issue (Parsed CharSet × Cursor) := do
  let (level, after) ← openLevel f.verbose c
  loop f (after.rest.length + 1) [] level after

end Class

end RegexGolf.Regex
