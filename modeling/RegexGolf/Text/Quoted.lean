import RegexGolf.Unicode.Additions
import RegexGolf.Unicode.BinaryProperty
import RegexGolf.Unicode.Category

/-!
Texts in double quotes, for messages. Quotes, backslashes and the common control characters are
escaped by a letter; a character that would not show, or that would join the one before it, is
written as its code point.
-/

namespace RegexGolf.Text.Quoted

open Unicode

def hidden : List Category :=
  [.control, .format, .privateUse, .unassigned, .lineSeparator, .paragraphSeparator,
    .spaceSeparator]

/-- Whether a character joins the one before it. The letters among them, the half-width voice marks,
take a place of their own. -/
def joins (c : Char) : Bool :=
  BinaryProperty.graphemeExtend.contains c && !Category.modifierLetter.contains c

def shows (c : Char) : Bool :=
  if c.toNat < 128 then ' ' ≤ c && c ≤ '~'
  else if Additions.all.contains c then !Additions.marks.contains c
  else
    !joins c && !hidden.any (·.contains c) &&
      !BinaryProperty.defaultIgnorableCodePoint.contains c

def codePoint (c : Char) : List Char :=
  ['\\', 'u', '\x7B'] ++ Nat.toDigits 16 c.toNat ++ ['\x7D']

def encodeChar (c : Char) : List Char :=
  match c with
  | '\x00' => ['\\', '0']
  | '\t' => ['\\', 't']
  | '\r' => ['\\', 'r']
  | '\n' => ['\\', 'n']
  | '"' => ['\\', '"']
  | '\\' => ['\\', '\\']
  | c => if shows c then [c] else codePoint c

def encode (text : List Char) : List Char := ['"'] ++ text.flatMap encodeChar ++ ['"']

def quote (s : String) : String := .ofList (encode s.toList)

end RegexGolf.Text.Quoted
