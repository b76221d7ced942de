import RegexGolf.Regex.Cursor
import RegexGolf.Regex.Flags
import RegexGolf.Regex.Property

/-!
The signs that begin with a backslash: characters by their code point, characters that would
otherwise have a meaning, named sets and conditions on a position.
-/

namespace RegexGolf.Regex

inductive Atom where
  /-- A character. Written as a byte (`\x` and two digits) it means that byte where Unicode is
  off. -/
  | literal (c : Char) (byte : Bool)
  | look (l : Look)
  /-- A set of characters, or the reason why it is none. -/
  | set (s : CharSet) (issue : Option Issue)
  deriving DecidableEq, Repr

structure Sign where
  atom : Atom
  span : Span
  cursor : Cursor
  deriving DecidableEq, Repr

namespace Escape

def hexValue? (c : Char) : Option Nat :=
  if '0' ≤ c ∧ c ≤ '9' then some (c.toNat - '0'.toNat)
  else if 'a' ≤ c ∧ c ≤ 'f' then some (c.toNat - 'a'.toNat + 10)
  else if 'A' ≤ c ∧ c ≤ 'F' then some (c.toNat - 'A'.toNat + 10)
  else none

def scalar? (n : Nat) : Option Char := if n.isValidChar then some (Char.ofNat n) else none

def hexDigits (verbose : Bool) : Nat → Nat → Cursor → Except Issue (Nat × Cursor)
  | 0, value, c => .ok (value, c)
  | n + 1, value, c =>
    match c.rest with
    | [] => refuse .escapeUnfinished c.here
    | d :: _ =>
      match hexValue? d with
      | none => refuse .hexInvalidDigit c.char
      | some v => hexDigits verbose n (value * 16 + v) (c.nextSign verbose)

/-- Hexadecimal digits up to a closing brace; the cursor stands on the sign before the next digit.
Answers the value, unless there are no digits, and the cursor on the brace. -/
def hexBraced (verbose : Bool) (opening : Nat) :
    Nat → Option Nat → Cursor → Except Issue (Option Nat × Cursor)
  | 0, _, c => refuse .escapeUnfinished (c.since opening)
  | fuel + 1, value, c =>
    let c := c.nextSign verbose
    match c.rest with
    | [] => refuse .escapeUnfinished (c.since opening)
    | '\x7D' :: _ => .ok (value, c)
    | d :: _ =>
      match hexValue? d with
      | none => refuse .hexInvalidDigit c.char
      | some v => hexBraced verbose opening fuel (some (value.getD 0 * 16 + v)) c

/-- A character by its code point; the cursor stands on the letter, which decides how many digits
there are unless they stand in braces. -/
def hex (verbose : Bool) (start : Nat) (letter : Char) (c : Cursor) : Except Issue Sign := do
  let c := c.nextSign verbose
  match c.rest with
  | [] => refuse .escapeUnfinished c.here
  | '\x7B' :: _ =>
    let (value?, stop) ← hexBraced verbose c.pos (c.rest.length + 1) none c
    let after := stop.nextSign verbose
    match value? with
    | none => refuse .hexEmpty (after.since c.pos)
    | some value =>
      match scalar? value with
      | none => refuse .hexInvalid (stop.since (c.pos + 1))
      | some ch => .ok ⟨.literal ch false, after.since start, after⟩
  | _ =>
    let count := if letter = 'x' then 2 else if letter = 'u' then 4 else 8
    let (value, after) ← hexDigits verbose count 0 c
    match scalar? value with
    | none => refuse .hexInvalid (after.since c.pos)
    | some ch => .ok ⟨.literal ch (letter = 'x'), after.since start, after⟩

def nameBraced (verbose : Bool) : Nat → List Char → Cursor → Except Issue (List Char × Cursor)
  | 0, _, c => refuse .escapeUnfinished c.here
  | fuel + 1, name, c =>
    let c := c.nextSign verbose
    match c.rest with
    | [] => refuse .escapeUnfinished c.here
    | '\x7D' :: _ => .ok (name.reverse, c.next)
    | d :: _ => nameBraced verbose fuel (d :: name) c

def cutAt? (sep : List Char) : List Char → Option (List Char × List Char)
  | [] => none
  | c :: rest =>
    if sep.isPrefixOf (c :: rest) then some ([], (c :: rest).drop sep.length)
    else (cutAt? sep rest).map fun (a, b) => (c :: a, b)

/-- The set that a braced name calls, by property and value if a sign of relation stands in it, and
whether that sign is one of inequality. -/
def namedSet (name : List Char) : Bool × Except Fault CharSet :=
  match cutAt? ['!', '='] name, cutAt? [':'] name <|> cutAt? ['='] name with
  | some (property, value), _ => (true, Property.findValue property value)
  | none, some (property, value) => (false, Property.findValue property value)
  | none, none => (false, Property.find name)

def property (f : Flags) (start : Nat) (negated : Bool) (c : Cursor) : Except Issue Sign := do
  let c := c.nextSign f.verbose
  let ((unequal, named), after) ← match c.rest with
    | [] => refuse .escapeUnfinished c.here
    | '\x7B' :: _ => do
      let (name, after) ← nameBraced f.verbose (c.rest.length + 1) [] c
      pure (namedSet name, after)
    | '\\' :: _ => refuse .propertyNameInvalid c.char
    | letter :: _ => pure ((false, Property.find [letter]), c.nextSign f.verbose)
  let span := after.since start
  let atom := if !f.unicode then Atom.set .none (some ⟨.unicodeNotAllowed, span, none⟩) else
    match named with
    | .ok s => .set (f.foldNegate (negated != unequal) s) none
    | .error fault => .set .none (some ⟨fault, span, none⟩)
  return ⟨atom, span, after⟩

def letterSet (f : Flags) (span : Span) (letter : Char) : Atom :=
  let set := match letter.toLower with
    | 'd' => CharSet.digit f.unicode
    | 's' => CharSet.space f.unicode
    | _ => CharSet.word f.unicode
  if letter.isUpper then .set (.compl set) (f.confine span (.compl set)) else .set set none

def edgeOfName? (name : List Char) : Option WordEdge :=
  match String.ofList name with
  | "start" => some .start
  | "end" => some .stop
  | "start-half" => some .startHalf
  | "end-half" => some .stopHalf
  | _ => none

def isEdgeChar (c : Char) : Bool := c.isAlpha || c == '-'

def edgeName (verbose : Bool) : Nat → List Char → Cursor → List Char × Cursor
  | 0, name, c => (name.reverse, c)
  | fuel + 1, name, c =>
    match c.rest with
    | [] => (name.reverse, c)
    | d :: _ =>
      if isEdgeChar d then edgeName verbose fuel (d :: name) (c.nextSign verbose)
      else (name.reverse, c)

/-- A word boundary. A brace behind it may name a special edge; if it does not begin like such a
name, it is left to be read as a repetition. -/
def wordBoundary (f : Flags) (start : Nat) (c : Cursor) : Except Issue Sign :=
  let plain : Sign := ⟨.look (.word .boundary f.unicode), c.since start, c⟩
  match c.rest with
  | '\x7B' :: _ =>
    let first := c.nextSign f.verbose
    match first.rest with
    | [] => refuse .wordEdgeOrRepetitionUnfinished (first.since start)
    | d :: _ =>
      if isEdgeChar d then
        let (name, stop) := edgeName f.verbose first.rest.length [] first
        match stop.rest with
        | '\x7D' :: _ =>
          match edgeOfName? name with
          | some edge => .ok ⟨.look (.word edge f.unicode), stop.next.since start, stop.next⟩
          | none => refuse .wordEdgeUnrecognized (stop.since first.pos)
        | _ => refuse .wordEdgeUnclosed (stop.since c.pos)
      else .ok plain
  | _ => .ok plain

def control? : Char → Option Char
  | 'a' => some '\x07'
  | 'f' => some '\x0C'
  | 't' => some '\t'
  | 'n' => some '\n'
  | 'r' => some '\r'
  | 'v' => some '\x0B'
  | _ => none

def look? (unicode : Bool) : Char → Option Look
  | 'A' => some .textStart
  | 'z' => some .textEnd
  | 'B' => some (.word .inside unicode)
  | '<' => some (.word .start unicode)
  | '>' => some (.word .stop unicode)
  | _ => none

def isQuotable (c : Char) : Bool :=
  c.toNat < 128 && !c.isAlphanum && c != '<' && c != '>'

def read (f : Flags) (c : Cursor) : Except Issue Sign :=
  let start := c.pos
  let c := c.next
  match c.rest with
  | [] => refuse .escapeUnfinished (c.since start)
  | letter :: _ =>
    let span := c.next.since start
    if letter.isDigit then refuse .backreferenceUnsupported span
    else if ['x', 'u', 'U'].contains letter then hex f.verbose start letter c
    else if letter = 'p' ∨ letter = 'P' then property f start (letter = 'P') c
    else if ['d', 's', 'w', 'D', 'S', 'W'].contains letter then
      .ok ⟨letterSet f span letter, span, c.next⟩
    else if isQuotable letter then .ok ⟨.literal letter false, span, c.next⟩
    else if letter = 'b' then wordBoundary f start c.next
    else
      match control? letter, look? f.unicode letter with
      | some ch, _ => .ok ⟨.literal ch false, span, c.next⟩
      | none, some l => .ok ⟨.look l, span, c.next⟩
      | none, none => refuse .escapeUnrecognized span

end Escape

end RegexGolf.Regex
