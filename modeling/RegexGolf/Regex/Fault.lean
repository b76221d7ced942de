/-!
What can be wrong with a pattern, in which part of it, and how that is told. A message quotes the
pattern and marks the faulty part below it; a pattern of several lines is quoted with line numbers
between two rules.
-/

namespace RegexGolf.Regex

structure Span where
  start : Nat
  stop : Nat
  deriving DecidableEq, Repr

namespace Span

def point (pos : Nat) : Span := ⟨pos, pos⟩

def charAt (pos : Nat) : Span := ⟨pos, pos + 1⟩

end Span

inductive Fault where
  | nestLimitExceeded (limit : Nat)
  | groupUnclosed
  | groupUnopened
  | groupNameEmpty
  | groupNameInvalid
  | groupNameUnclosed
  | groupNameDuplicate
  | lookAroundUnsupported
  | flagDangling
  | flagDuplicate
  | flagRepeatedNegation
  | flagUnclosed
  | flagUnrecognized
  | repetitionMissing
  | repetitionUnclosed
  | repetitionDecimalMissing
  | repetitionInvalid
  | decimalInvalid
  | classUnclosed
  | classEscapeInvalid
  | classRangeInvalid
  | classRangeLiteral
  | escapeUnfinished
  | escapeUnrecognized
  | backreferenceUnsupported
  | hexEmpty
  | hexInvalid
  | hexInvalidDigit
  | propertyNameInvalid
  | wordEdgeUnclosed
  | wordEdgeUnrecognized
  | wordEdgeOrRepetitionUnfinished
  | unicodeNotAllowed
  | invalidUtf8
  | propertyNotFound
  | propertyValueNotFound
  deriving DecidableEq, Repr

namespace Fault

def wording : Fault → String
  | nestLimitExceeded limit =>
    "exceed the maximum number of nested parentheses/brackets (" ++ toString limit ++ ")"
  | groupUnclosed => "unclosed group"
  | groupUnopened => "unopened group"
  | groupNameEmpty => "empty capture group name"
  | groupNameInvalid => "invalid capture group character"
  | groupNameUnclosed => "unclosed capture group name"
  | groupNameDuplicate => "duplicate capture group name"
  | lookAroundUnsupported =>
    "look-around, including look-ahead and look-behind, is not supported"
  | flagDangling => "dangling flag negation operator"
  | flagDuplicate => "duplicate flag"
  | flagRepeatedNegation => "flag negation operator repeated"
  | flagUnclosed => "expected flag but got end of regex"
  | flagUnrecognized => "unrecognized flag"
  | repetitionMissing => "repetition operator missing expression"
  | repetitionUnclosed => "unclosed counted repetition"
  | repetitionDecimalMissing => "repetition quantifier expects a valid decimal"
  | repetitionInvalid =>
    "invalid repetition count range, the start must be <= the end"
  | decimalInvalid => "decimal literal invalid"
  | classUnclosed => "unclosed character class"
  | classEscapeInvalid => "invalid escape sequence found in character class"
  | classRangeInvalid => "invalid character class range, the start must be <= the end"
  | classRangeLiteral => "invalid range boundary, must be a literal"
  | escapeUnfinished => "incomplete escape sequence, reached end of pattern prematurely"
  | escapeUnrecognized => "unrecognized escape sequence"
  | backreferenceUnsupported => "backreferences are not supported"
  | hexEmpty => "hexadecimal literal empty"
  | hexInvalid => "hexadecimal literal is not a Unicode scalar value"
  | hexInvalidDigit => "invalid hexadecimal digit"
  | propertyNameInvalid => "invalid Unicode character class"
  | wordEdgeUnclosed =>
    "special word boundary assertion is either unclosed or contains an invalid character"
  | wordEdgeUnrecognized =>
    "unrecognized special word boundary assertion, valid choices are: " ++
      "start, end, start-half or end-half"
  | wordEdgeOrRepetitionUnfinished =>
    "found either the beginning of a special word boundary or a bounded repetition on a \\b " ++
      "with an opening brace, but no closing brace"
  | unicodeNotAllowed => "Unicode not allowed here"
  | invalidUtf8 => "pattern can match invalid UTF-8"
  | propertyNotFound => "Unicode property not found"
  | propertyValueNotFound => "Unicode property value not found"

end Fault

/-- A fault at its place; a repetition of something earlier points to that as well. -/
structure Issue where
  fault : Fault
  span : Span
  earlier : Option Span := none
  deriving DecidableEq, Repr

/-- Line and column of an offset, both counted from zero. -/
structure Place where
  line : Nat
  column : Nat
  deriving DecidableEq, Repr

def Place.after (text : List Char) : Place :=
  text.foldl (fun p c => if c = '\n' then ⟨p.line + 1, 0⟩ else ⟨p.line, p.column + 1⟩) ⟨0, 0⟩

def trimReturn (line : List Char) : List Char :=
  if line.getLast? = some '\r' then line.dropLast else line

/-- The lines of a text without their ends; a final line feed starts no further line. -/
def quotedLines (text : List Char) : List (List Char) :=
  let pieces := text.splitOn '\n'
  let closed := pieces.dropLast.map trimReturn
  match pieces.getLast? with
  | none => closed
  | some [] => closed
  | some last => closed ++ [last]

/-- Marks of the given columns, from left to right, in a line that starts out blank. An empty part
gets one mark. -/
def markLine (column : Nat) : List (Nat × Nat) → List Char
  | [] => []
  | (start, stop) :: rest =>
    let width := max 1 (stop - start)
    List.replicate (start - column) ' ' ++ List.replicate width '^' ++
      markLine (max column start + width) rest

structure Extent where
  start : Place
  stop : Place
  deriving DecidableEq, Repr

namespace Extent

def ofSpan (text : List Char) (s : Span) : Extent :=
  ⟨.after (text.take s.start), .after (text.take s.stop)⟩

def isOneLine (e : Extent) : Bool := e.start.line == e.stop.line

end Extent

def Issue.spans (i : Issue) : List Span :=
  match i.earlier with
  | none => [i.span]
  | some other =>
    if other.start < i.span.start ∨ (other.start = i.span.start ∧ other.stop ≤ i.span.stop) then
      [other, i.span]
    else [i.span, other]

/-- One quoted line with the marks that belong below it. The number is written only if `width`,
the number of places for it, is positive. -/
def quoteLine (width : Nat) (extents : List Extent) (number : Nat) (line : List Char) : String :=
  let shown := toString (number + 1)
  let lead := if width = 0 then "    " else
    String.ofList (List.replicate (width - shown.length) ' ') ++ shown ++ ": "
  let here := extents.filter fun e => e.isOneLine && e.start.line == number
  let below := if here.isEmpty then "" else
    String.ofList (List.replicate lead.length ' ' ++
      markLine 0 (here.map fun e => (e.start.column, e.stop.column))) ++ "\n"
  lead ++ String.ofList line ++ "\n" ++ below

def Extent.description (e : Extent) : String :=
  "on line " ++ toString (e.start.line + 1) ++ " (column " ++ toString (e.start.column + 1) ++
    ") through line " ++ toString (e.stop.line + 1) ++ " (column " ++ toString e.stop.column ++ ")"

def Issue.report (i : Issue) (pattern : String) : String :=
  let text := pattern.toList
  let lines := quotedLines text
  let count := lines.length + (if text.getLast? = some '\n' then 1 else 0)
  let width := if count ≤ 1 then 0 else (toString count).length
  let extents := i.spans.map (Extent.ofSpan text)
  let quoted := String.join (lines.mapIdx (quoteLine width extents))
  let told := "error: " ++ i.fault.wording
  if text.contains '\n' then
    let rule := String.ofList (List.replicate 79 '~') ++ "\n"
    let spread := extents.filter fun e => !e.isOneLine
    let notes := if spread.isEmpty then "" else
      "\n".intercalate (spread.map Extent.description) ++ "\n"
    "regex parse error:\n" ++ rule ++ quoted ++ rule ++ notes ++ told
  else "regex parse error:\n" ++ quoted ++ told

inductive Objection where
  /-- Its text is not that of a pattern; this is the first issue. -/
  | issue (i : Issue)
  /-- Its repetitions unfold to more than the given number of bytes. -/
  | tooLarge (limit : Nat)
  deriving DecidableEq, Repr

structure PatternError where
  pattern : String
  objection : Objection
  deriving DecidableEq, Repr

def PatternError.message (e : PatternError) : String :=
  match e.objection with
  | .issue i => i.report e.pattern
  | .tooLarge limit => "Compiled regex exceeds size limit of " ++ toString limit ++ " bytes."

end RegexGolf.Regex
