import RegexGolf.Regex.CharSet
import RegexGolf.Unicode.BinaryProperty
import RegexGolf.Unicode.Category

/-!
The character classes that patterns call by a letter (`\d`, `\s`, `\w`) or by a bracketed name
(`[:alpha:]`). The letters have a Unicode and an ASCII reading; the names are always ASCII.
-/

namespace RegexGolf.Regex.CharSet

open Unicode

def named? (name : String) : Option CharSet :=
  match name with
  | "alnum" => some (unions [interval '0' '9', interval 'A' 'Z', interval 'a' 'z'])
  | "alpha" => some (unions [interval 'A' 'Z', interval 'a' 'z'])
  | "ascii" => some (interval '\x00' '\x7F')
  | "blank" => some (unions [single '\t', single ' '])
  | "cntrl" => some (unions [interval '\x00' '\x1F', single '\x7F'])
  | "digit" => some (interval '0' '9')
  | "graph" => some (interval '!' '~')
  | "lower" => some (interval 'a' 'z')
  | "print" => some (interval ' ' '~')
  | "punct" =>
    some (unions [interval '!' '/', interval ':' '@', interval '[' '\x60', interval '\x7B' '~'])
  | "space" => some (unions [interval '\t' '\r', single ' '])
  | "upper" => some (interval 'A' 'Z')
  | "word" => some (unions [interval '0' '9', interval 'A' 'Z', single '_', interval 'a' 'z'])
  | "xdigit" => some (unions [interval '0' '9', interval 'A' 'F', interval 'a' 'f'])
  | _ => Option.none

def digit (unicode : Bool) : CharSet :=
  if unicode then listed Category.decimalNumber.members else interval '0' '9'

def space (unicode : Bool) : CharSet :=
  if unicode then listed BinaryProperty.whiteSpace.members
  else unions [interval '\t' '\r', single ' ']

/-- Letters, marks, decimal digits, connecting punctuation and the two joiners. -/
def word (unicode : Bool) : CharSet :=
  if unicode then
    unions
      [listed BinaryProperty.alphabetic.members, listed Category.nonspacingMark.members,
        listed Category.spacingMark.members, listed Category.enclosingMark.members,
        listed Category.decimalNumber.members, listed Category.connectorPunctuation.members,
        listed BinaryProperty.joinControl.members]
  else unions [interval '0' '9', interval 'A' 'Z', single '_', interval 'a' 'z']

end RegexGolf.Regex.CharSet
