import RegexGolf.Regex.Fault
import RegexGolf.Unicode.BinaryProperty

/-!
Reading a pattern from left to right: what is left of it and how far one has come. In the verbose
mode blanks and comments (from `#` to the end of the line) between the signs are passed over.
-/

namespace RegexGolf.Regex

def isBlank (c : Char) : Bool := Unicode.BinaryProperty.whiteSpace.contains c

structure Cursor where
  pos : Nat
  rest : List Char
  deriving DecidableEq, Repr

/-- Passes over blanks and comments; `commented` tells that one stands inside a comment. -/
def Cursor.skipFrom (commented : Bool) (pos : Nat) : List Char → Cursor
  | [] => ⟨pos, []⟩
  | c :: rest =>
    if commented then skipFrom (c != '\n') (pos + 1) rest
    else if isBlank c then skipFrom false (pos + 1) rest
    else if c = '#' then skipFrom true (pos + 1) rest
    else ⟨pos, c :: rest⟩

namespace Cursor

def start (pattern : List Char) : Cursor := ⟨0, pattern⟩

/-- One character further; at the end one stays. -/
def next (c : Cursor) : Cursor :=
  match c.rest with
  | [] => c
  | _ :: rest => ⟨c.pos + 1, rest⟩

def drop (n : Nat) (c : Cursor) : Cursor := ⟨c.pos + min n c.rest.length, c.rest.drop n⟩

def skip (verbose : Bool) (c : Cursor) : Cursor :=
  if verbose then skipFrom false c.pos c.rest else c

def nextSign (verbose : Bool) (c : Cursor) : Cursor := c.next.skip verbose

def here (c : Cursor) : Span := .point c.pos

def char (c : Cursor) : Span := .charAt c.pos

def since (pos : Nat) (c : Cursor) : Span := ⟨pos, c.pos⟩

def over? (text : List Char) (c : Cursor) : Option Cursor :=
  if text.isPrefixOf c.rest then some (c.drop text.length) else none

end Cursor

def refuse {α : Type} (fault : Fault) (span : Span) : Except Issue α :=
  .error ⟨fault, span, none⟩

end RegexGolf.Regex
