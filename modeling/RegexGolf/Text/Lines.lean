/-!
Lists of lines as blocks of text. Carriage returns are dropped wherever they stand, a final line
feed closes the last line, and empty lines between others count.
-/

namespace RegexGolf.Text.Lines

def dropFinal (text : List Char) : List Char :=
  if text.getLast? = some '\n' then text.dropLast else text

/-- The lines of a block; there is always at least one. -/
def splitChars (block : List Char) : List (List Char) :=
  (dropFinal (block.filter (· != '\r'))).splitOn '\n'

def split (block : String) : List String := (splitChars block.toList).map String.ofList

/-- Writes lines one below the other, without a line feed at the end. -/
def join (lines : List String) : String := "\n".intercalate lines

end RegexGolf.Text.Lines
