import RegexGolf.Options
import RegexGolf.Pool
import RegexGolf.Unicode.CaseMap

/-!
Cutting fragments out of words. A word is put between the anchors `^` and `$`, and every window on
that text is a fragment, the anchors counting as characters; a window may also be taken in upper or
lower case, and a repetition operator may follow it.
-/

namespace RegexGolf.Fragment

def anchored (word : List Char) : List Char := '^' :: word ++ ['$']

def starts : Nat → List Char → List (List Char)
  | 0, _ => []
  | _, [] => []
  | size + 1, c :: rest => [c] :: (starts size rest).map (c :: ·)

/-- The windows on a text that have at least one and at most `size` characters. -/
def windows (size : Nat) : List Char → List (List Char)
  | [] => []
  | c :: rest => starts size (c :: rest) ++ windows size rest

def forms (caseVariants : Bool) (window : List Char) : List (List Char) :=
  if caseVariants then [window, Unicode.upperChars window, Unicode.lowerChars window]
  else [window]

def endings (quantifiers : Bool) : List (List Char) :=
  if quantifiers then [[], ['+'], ['*'], ['?']] else [[]]

/-- All fragments of a word, some of them several times. -/
def cuttings (c : Cutting) (word : List Char) : List (List Char) :=
  (windows c.window (anchored word)).flatMap fun window =>
    (forms c.caseVariants window).flatMap fun form =>
      (endings c.quantifiers).map fun ending => form ++ ending

def ofWord (c : Cutting) (word : String) : Pool :=
  .ofKeys ((cuttings c word.toList).map String.ofList)

def ofWords (c : Cutting) (words : List String) : Pool :=
  .ofKeys (words.flatMap fun w => (cuttings c w.toList).map String.ofList)

end RegexGolf.Fragment
