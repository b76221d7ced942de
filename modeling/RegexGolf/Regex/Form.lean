import RegexGolf.Regex.Basic
import RegexGolf.Regex.Intervals
import RegexGolf.Regex.Utf8

/-!
The simplified form of an expression, in which its size is measured. Texts that follow each other
are one text, sequences and alternatives are flat, alternatives that are all sets are one set, and a
beginning that all alternatives share stands before them once. None of this changes what matches.
-/

namespace RegexGolf.Regex

inductive Form where
  | empty
  | literal (bytes : List Nat)
  /-- A set that is not a single character, with its intervals and their paths. -/
  | set (intervals : Intervals) (paths : List Utf8.Path)
  | look (l : Look)
  | repeated (f : Form) (least : Nat) (most : Option Nat)
  | capture (f : Form)
  | seq (fs : List Form)
  | alt (fs : List Form)

namespace Form

def ofIntervals : Intervals → Form
  | [] => set [] []
  | [i] => if i.1 = i.2 then literal (Utf8.encode i.1) else set [i] (Utf8.paths i.1 i.2)
  | is => set is (is.flatMap fun i => Utf8.paths i.1 i.2)

def bytes? : Form → Option (List Nat)
  | literal bytes => some bytes
  | _ => none

mutual

/-- The length of the shortest match; none is known if some part cannot match at all. -/
def leastLength : Form → Option Nat
  | empty | look _ => some 0
  | literal bytes => some bytes.length
  | set is _ => is.head?.map fun i => (Utf8.encode i.1).length
  | repeated f least _ => (leastLength f).map (· * least)
  | capture f => leastLength f
  | seq fs => leastSum fs
  | alt fs => leastOf fs

def leastSum : List Form → Option Nat
  | [] => some 0
  | f :: rest => do return (← leastLength f) + (← leastSum rest)

def leastOf : List Form → Option Nat
  | [] => none
  | [f] => leastLength f
  | f :: rest => do return min (← leastLength f) (← leastOf rest)

end

mutual

def mostLength : Form → Option Nat
  | empty | look _ => some 0
  | literal bytes => some bytes.length
  | set is _ => is.getLast?.map fun i => (Utf8.encode i.2).length
  | repeated f _ most => do return (← mostLength f) * (← most)
  | capture f => mostLength f
  | seq fs => mostSum fs
  | alt fs => mostOf fs

def mostSum : List Form → Option Nat
  | [] => some 0
  | f :: rest => do return (← mostLength f) + (← mostSum rest)

def mostOf : List Form → Option Nat
  | [] => none
  | [f] => mostLength f
  | f :: rest => do return max (← mostLength f) (← mostOf rest)

end

mutual

def startsText : Form → Bool
  | look l => l == .textStart
  | repeated f least _ => 0 < least && startsText f
  | capture f => startsText f
  | seq fs => startsTextFirst fs
  | alt fs => startsTextAll fs
  | _ => false

/-- The same for a sequence: a part counts if nothing but empty matches precede it. -/
def startsTextFirst : List Form → Bool
  | [] => false
  | f :: rest => startsText f || (f.mostLength == some 0 && startsTextFirst rest)

def startsTextAll : List Form → Bool
  | [] => true
  | f :: rest => startsText f && startsTextAll rest

end

mutual

def endsText : Form → Bool
  | look l => l == .textEnd
  | repeated f least _ => 0 < least && endsText f
  | capture f => endsText f
  | seq fs => endsTextLast fs
  | alt fs => endsTextAll fs
  | _ => false

def endsTextLast : List Form → Bool
  | [] => false
  | f :: rest => endsTextLast rest || (rest.all (fun g => g.mostLength == some 0) && endsText f)

def endsTextAll : List Form → Bool
  | [] => true
  | f :: rest => endsText f && endsTextAll rest

end

mutual

/-- Whether two forms are the same. A capturing group is the same as no other. -/
def same : Form → Form → Bool
  | empty, empty => true
  | literal a, literal b => a == b
  | set a _, set b _ => a == b
  | look a, look b => a == b
  | repeated f least most, repeated g least' most' =>
    least == least' && most == most' && same f g
  | seq fs, seq gs => sameAll fs gs
  | alt fs, alt gs => sameAll fs gs
  | _, _ => false

def sameAll : List Form → List Form → Bool
  | [], [] => true
  | f :: fs, g :: gs => same f g && sameAll fs gs
  | _, _ => false

end

/-- Copies of what matches nothing but the empty text are not kept, and one copy is no repetition. -/
def copies (f : Form) (least : Nat) (most : Option Nat) : Form :=
  let (least, most) :=
    if f.mostLength = some 0 then (min least 1, some (min (most.getD 1) 1)) else (least, most)
  if least = 0 ∧ most = some 0 then empty
  else if least = 1 ∧ most = some 1 then f
  else repeated f least most

def parts : Form → List Form
  | empty => []
  | seq fs => fs
  | f => [f]

def before (f : Form) (rest : List Form) : List Form :=
  match f, rest with
  | literal a, literal b :: more => literal (a ++ b) :: more
  | f, rest => f :: rest

def ofParts : List Form → Form
  | [] => empty
  | [f] => f
  | fs => seq fs

def concat (fs : List Form) : Form := ofParts ((fs.flatMap parts).foldr before [])

def branches : Form → List Form
  | alt fs => fs
  | f => [f]

def codePoint? : Form → Option Nat
  | literal bytes =>
    match String.fromUTF8? ⟨(bytes.map Nat.toUInt8).toArray⟩ with
    | some text => if text.length = 1 then text.toList.head?.map Char.toNat else none
    | none => none
  | _ => none

def intervals? : Form → Option Intervals
  | set is _ => some is
  | _ => none

/-- The intervals of alternatives that are all texts of one character, or all sets. -/
def setOf? (fs : List Form) : Option Intervals :=
  (fs.mapM codePoint?).map Intervals.ofPoints <|>
    (fs.mapM intervals?).map fun sets => sets.foldl Intervals.union []

def anyOf (fs : List Form) : Form :=
  match fs.flatMap branches with
  | [f] => f
  | fs => (setOf? fs).elim (alt fs) ofIntervals

def sharedLength (fs gs : List Form) : Nat := ((fs.zip gs).takeWhile fun p => same p.1 p.2).length

def sequence? : Form → Option (List Form)
  | seq fs => some fs
  | _ => none

/-- One of several alternatives. If all are sequences, what they share at the beginning is put
before them. -/
def alternatives (fs : List Form) : Form :=
  match anyOf fs with
  | alt fs =>
    match fs.mapM sequence? with
    | some (first :: others) =>
      let shared := others.foldl (fun n parts => min n (sharedLength first parts)) first.length
      if shared = 0 then alt fs
      else
        let rests := (first :: others).map fun parts => concat (parts.drop shared)
        concat (first.take shared ++ [anyOf rests])
    | _ => alt fs
  | f => f

end Form

/-- What has been collected of an expression: the alternatives or the parts that a chain ends
with. -/
inductive Outline where
  | alternatives (fs : List Form)
  | parts (fs : List Form)

namespace Outline

def form : Outline → Form
  | alternatives fs => Form.alternatives fs
  | parts fs => .ofParts fs

def asParts : Outline → List Form
  | parts fs => fs
  | alternatives fs => (Form.alternatives fs).parts

def asAlternatives : Outline → List Form
  | alternatives fs => fs
  | parts fs => [.ofParts fs]

end Outline

def outline : Regex → Outline
  | empty => .parts []
  | char set => .parts [.ofIntervals set.intervals]
  | look l => .parts [.look l]
  | seq a b => .parts ((outline a).form.parts.foldr Form.before (outline b).asParts)
  | alt a b => .alternatives ((outline a).form :: (outline b).asAlternatives)
  | repeated r least most => .parts ((outline r).form.copies least most).parts
  | group captures r =>
    let inner := (outline r).form
    .parts (if captures then [.capture inner] else inner.parts)

def form (r : Regex) : Form := r.outline.form

end RegexGolf.Regex
