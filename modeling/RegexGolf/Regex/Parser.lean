import RegexGolf.Regex.Class
import RegexGolf.Regex.Size
import RegexGolf.Unicode.Additions

/-!
Reading a pattern. A pattern is a sequence of alternatives, each a sequence of pieces; what an open
group interrupts waits in a list until the group is closed. Modes are taken into account as they
are set: a mode lasts until the end of the group that it is set in, also across alternatives.
-/

namespace RegexGolf.Regex

/-- Something that stands between two alternation signs. A setting of modes takes a place but is no
expression, so it cannot be repeated. -/
abbrev Piece := Parsed (Option Regex)

structure Alternatives where
  start : Nat
  finished : List (Parsed Regex)
  branchStart : Nat
  pieces : List Piece

namespace Alternatives

def opened (pos : Nat) : Alternatives := ⟨pos, [], pos, []⟩

def add (a : Alternatives) (piece : Piece) : Alternatives :=
  { a with pieces := piece :: a.pieces }

def branch (a : Alternatives) (stop : Nat) : Parsed Regex :=
  match a.pieces.reverse with
  | [] => .leaf .empty ⟨a.branchStart, stop⟩
  | [piece] => { piece with value := piece.value.getD .empty }
  | pieces => .node (concat (pieces.filterMap (·.value))) ⟨a.branchStart, stop⟩ pieces

def split (a : Alternatives) (pos : Nat) : Alternatives :=
  ⟨a.start, a.branch pos :: a.finished, pos + 1, []⟩

def close (a : Alternatives) (stop : Nat) : Parsed Regex :=
  match a.finished with
  | [] => a.branch stop
  | finished =>
    let branches := finished.reverse ++ [a.branch stop]
    .node (anyOf (branches.map (·.value))) ⟨a.start, stop⟩ branches

end Alternatives

/-- An open group: where it opens, whether it captures, what it interrupts and the modes that come
back after it. -/
structure Pending where
  opening : Nat
  captures : Bool
  around : Alternatives
  flags : Flags

structure Reading where
  cursor : Cursor
  flags : Flags
  /-- The names of groups with their places. -/
  names : List (List Char × Span)
  current : Alternatives
  /-- The open groups, innermost first. -/
  pending : List Pending

namespace Reading

def start (pattern : List Char) : Reading :=
  ⟨.start pattern, {}, [], .opened 0, []⟩

def push (s : Reading) (piece : Piece) (after : Cursor) : Reading :=
  { s with current := s.current.add piece, cursor := after }

def pieceOf (f : Flags) (sign : Sign) : Piece :=
  match sign.atom with
  | .literal c byte =>
    let issue := if !f.unicode && byte && 128 ≤ c.toNat then
      some ⟨.invalidUtf8, sign.span, none⟩ else none
    .leaf (some (.char (f.fold (.single c)))) sign.span issue
  | .look l => .leaf (some (.look l)) sign.span
  | .set s issue => .leaf (some (.char s)) sign.span issue

/-- The point, which outside the Unicode mode could match half a character. -/
def dotPiece (f : Flags) (span : Span) : Piece :=
  .leaf (some (.char f.dot)) span (if f.unicode then none else some ⟨.invalidUtf8, span, none⟩)

def repeatLast (s : Reading) (least : Nat) (most : Option Nat) (after : Cursor) :
    Except Issue Reading :=
  match s.current.pieces with
  | piece :: rest =>
    match piece.value with
    | some r =>
      let whole : Piece :=
        .node (some (.repeated r least most)) (after.since piece.span.start) [piece]
      .ok { s with cursor := after, current := { s.current with pieces := whole :: rest } }
    | none => refuse .repetitionMissing s.cursor.here
  | [] => refuse .repetitionMissing s.cursor.here

def canRepeat (s : Reading) : Bool :=
  match s.current.pieces with
  | piece :: _ => piece.value.isSome
  | [] => false

/-- A question mark behind an operator asks for the shortest match, which no search can tell. -/
def skipLazy (c : Cursor) : Cursor := if c.rest.head? == some '?' then c.next else c

def uncounted (s : Reading) (least : Nat) (most : Option Nat) : Except Issue Reading :=
  s.repeatLast least most (skipLazy s.cursor.next)

def digits (verbose : Bool) : Nat → List Char → Cursor → List Char × Cursor
  | 0, found, c => (found.reverse, c)
  | fuel + 1, found, c =>
    match c.rest with
    | [] => (found.reverse, c)
    | d :: _ =>
      if d.isDigit then digits verbose fuel (d :: found) (c.nextSign verbose)
      else (found.reverse, c)

/-- Blanks are allowed around a count in every mode. -/
def skipBlanks (verbose : Bool) : Nat → Cursor → Cursor
  | 0, c => c
  | fuel + 1, c =>
    match c.rest with
    | [] => c
    | d :: _ => if isBlank d then skipBlanks verbose fuel (c.nextSign verbose) else c

/-- A count of copies, which has to fit into 32 bits, and the cursor behind it. -/
def count (verbose : Bool) (c : Cursor) : Except Issue Nat × Cursor :=
  let first := skipBlanks false c.rest.length c
  let (found, stop) := digits verbose first.rest.length [] first
  let span := stop.since first.pos
  let after := skipBlanks verbose stop.rest.length stop
  let value := found.foldl (fun n d => n * 10 + (d.toNat - '0'.toNat)) 0
  if found.isEmpty then (refuse .repetitionDecimalMissing span, after)
  else if value < UInt32.size then (.ok value, after)
  else (refuse .decimalInvalid span, after)

/-- The bounds of a counted repetition; the cursor stands behind the brace at `start`. Answers with
the cursor where the closing brace belongs. -/
def bounds (verbose : Bool) (start : Nat) (c : Cursor) :
    Except Issue ((Nat × Option Nat) × Cursor) := do
  let (least?, c) := count verbose c
  match c.rest with
  | [] => refuse .repetitionUnclosed (c.since start)
  | ',' :: _ =>
    let c := c.nextSign verbose
    match c.rest with
    | [] => refuse .repetitionUnclosed (c.since start)
    | '\x7D' :: _ => return ((← least?, none), c)
    | _ =>
      let least ← least?
      let (most?, c) := count verbose c
      return ((least, some (← most?)), c)
  | _ =>
    let least ← least?
    return ((least, some least), c)

def counted (s : Reading) : Except Issue Reading := do
  let verbose := s.flags.verbose
  let start := s.cursor.pos
  if !s.canRepeat then refuse .repetitionMissing s.cursor.here
  let c := s.cursor.nextSign verbose
  if c.rest.isEmpty then refuse .repetitionUnclosed (c.since start)
  let ((least, most), c) ← bounds verbose start c
  if c.rest.head? != some '\x7D' then refuse .repetitionUnclosed (c.since start)
  let after := skipLazy (c.nextSign verbose)
  if most.any (· < least) then refuse .repetitionInvalid (after.since start)
  s.repeatLast least most after

def isAlphabetic (c : Char) : Bool :=
  Unicode.BinaryProperty.alphabetic.contains c || Unicode.Additions.alphabetic.contains c

def isNumber (c : Char) : Bool :=
  [Unicode.Category.decimalNumber, .letterNumber, .otherNumber].any (·.contains c) ||
    Unicode.Additions.numbers.contains c

def isNameChar (first : Bool) (c : Char) : Bool :=
  c == '_' || isAlphabetic c || (!first && (['.', '[', ']'].contains c || isNumber c))

def groupName (start : Nat) (name : List Char) (pos : Nat) :
    List Char → Except Issue (List Char × Cursor)
  | [] => refuse .groupNameUnclosed (.point pos)
  | c :: rest =>
    if c = '>' then .ok (name.reverse, ⟨pos + 1, rest⟩)
    else if isNameChar (pos == start) c then groupName start (c :: name) (pos + 1) rest
    else refuse .groupNameInvalid (.charAt pos)

structure Setting where
  flags : List (Flag × Bool × Span)
  negation : Option Span
  dangling : Bool

def Setting.apply (setting : Setting) (f : Flags) : Flags :=
  setting.flags.foldr (fun (flag, on, _) f => flag.set on f) f

def flagSetting (setting : Setting) (pos : Nat) :
    List Char → Except Issue (Setting × Cursor)
  | [] => refuse .flagUnclosed (.point pos)
  | c :: rest =>
    let span := Span.charAt pos
    if c = ':' ∨ c = ')' then
      match setting.dangling, setting.negation with
      | true, some sign => refuse .flagDangling sign
      | _, _ => .ok (setting, ⟨pos, c :: rest⟩)
    else if c = '-' then
      match setting.negation with
      | some earlier => .error ⟨.flagRepeatedNegation, span, some earlier⟩
      | none => flagSetting { setting with negation := some span, dangling := true } (pos + 1) rest
    else
      match Flag.ofChar? c with
      | none => refuse .flagUnrecognized span
      | some flag =>
        match setting.flags.find? fun entry => entry.1 == flag with
        | some (_, _, earlier) => .error ⟨.flagDuplicate, span, some earlier⟩
        | none =>
          let entry := (flag, setting.negation.isNone, span)
          flagSetting ⟨entry :: setting.flags, setting.negation, false⟩ (pos + 1) rest

def openGroup (s : Reading) (captures : Bool) (flags : Flags) (after : Cursor) : Reading :=
  { s with
    cursor := after
    flags := flags
    current := .opened after.pos
    pending := ⟨s.cursor.pos, captures, s.current, s.flags⟩ :: s.pending }

def openNamed (s : Reading) (c : Cursor) : Except Issue Reading := do
  let (name, after) ← groupName c.pos [] c.pos c.rest
  let span : Span := ⟨c.pos, after.pos - 1⟩
  if name.isEmpty then refuse .groupNameEmpty (.point c.pos)
  match s.names.find? fun entry => entry.1 == name with
  | some (_, earlier) => .error ⟨.groupNameDuplicate, span, some earlier⟩
  | none => return openGroup { s with names := (name, span) :: s.names } true s.flags after

def openSetting (s : Reading) (mark : Nat) (c : Cursor) : Except Issue Reading := do
  let (setting, stop) ← flagSetting ⟨[], none, false⟩ c.pos c.rest
  let flags := setting.apply s.flags
  if stop.rest.head? == some ':' then return s.openGroup false flags stop.next
  if setting.flags.isEmpty then refuse .repetitionMissing (.point mark)
  let piece : Piece := .leaf none (stop.next.since s.cursor.pos)
  return { s.push piece stop.next with flags := flags }

def group (s : Reading) : Except Issue Reading :=
  let inside := s.cursor.nextSign s.flags.verbose
  let around := ["?=", "?!", "?<=", "?<!"].findSome? fun sign => inside.over? sign.toList
  match around with
  | some after => refuse .lookAroundUnsupported (after.since s.cursor.pos)
  | none =>
    match inside.over? ['?', 'P', '<'] <|> inside.over? ['?', '<'] with
    | some after => s.openNamed after
    | none =>
      match inside.over? ['?'] with
      | none => .ok (s.openGroup true s.flags inside)
      | some after =>
        if after.rest.isEmpty then refuse .groupUnclosed s.cursor.char
        else s.openSetting inside.pos after

def closeGroup (s : Reading) : Except Issue Reading :=
  match s.pending with
  | [] => refuse .groupUnopened s.cursor.char
  | p :: rest =>
    let inner := s.current.close s.cursor.pos
    let after := s.cursor.next
    let piece : Piece :=
      .node (some (.group p.captures inner.value)) (after.since p.opening) [inner]
    .ok
      { s with
        cursor := after
        flags := p.flags
        current := p.around.add piece
        pending := rest }

def step (s : Reading) (c : Char) : Except Issue Reading :=
  match c with
  | '(' => s.group
  | ')' => s.closeGroup
  | '|' =>
    .ok { s with current := s.current.split s.cursor.pos, cursor := s.cursor.next }
  | '[' => do
    let (set, after) ← Class.read s.flags s.cursor
    return s.push ⟨some (.char set.value), set.span, set.tooDeep, set.issue⟩ after
  | '?' => s.uncounted 0 (some 1)
  | '*' => s.uncounted 0 none
  | '+' => s.uncounted 1 none
  | '\x7B' => s.counted
  | '\\' => do
    let sign ← Escape.read s.flags s.cursor
    return s.push (pieceOf s.flags sign) sign.cursor
  | '.' => .ok (s.push (dotPiece s.flags s.cursor.char) s.cursor.next)
  | '^' => .ok (s.push (.leaf (some (.look s.flags.lineStart)) s.cursor.char) s.cursor.next)
  | '$' => .ok (s.push (.leaf (some (.look s.flags.lineEnd)) s.cursor.char) s.cursor.next)
  | c =>
    let sign : Sign := ⟨.literal c false, s.cursor.char, s.cursor.next⟩
    .ok (s.push (pieceOf s.flags sign) sign.cursor)

def finish (s : Reading) : Except Issue (Parsed Regex) :=
  match s.pending with
  | p :: _ => refuse .groupUnclosed (.charAt p.opening)
  | [] => .ok (s.current.close s.cursor.pos)

/-- Reads on to the end of the pattern. Every step takes at least one character, so the number of
characters left bounds the number of steps. -/
def loop : Nat → Reading → Except Issue (Parsed Regex)
  | 0, s => s.finish
  | fuel + 1, s =>
    let s := { s with cursor := s.cursor.skip s.flags.verbose }
    match s.cursor.rest with
    | [] => s.finish
    | c :: _ =>
      match s.step c with
      | .error issue => .error issue
      | .ok next => loop fuel next

end Reading

def nestLimit : Nat := 250

/-- The expression that a pattern denotes. Form comes first, then depth, then meaning. -/
def parseChars (pattern : List Char) : Except Issue Regex := do
  let whole ← Reading.loop (pattern.length + 1) (.start pattern)
  match whole.tooDeep nestLimit, whole.issue with
  | some span, _ => refuse (.nestLimitExceeded nestLimit) span
  | none, some issue => .error issue
  | none, none => return whole.value

/-- The expression that a pattern denotes, unless it takes too much room. -/
def parse (pattern : String) : Except PatternError Regex :=
  match parseChars pattern.toList with
  | .error issue => .error ⟨pattern, .issue issue⟩
  | .ok r => if r.fits then .ok r else .error ⟨pattern, .tooLarge roomLimit⟩

end RegexGolf.Regex
