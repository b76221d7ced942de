import RegexGolf.Regex.Form
import Std.Data.HashMap

/-!
The draft of an automaton, as far as its size goes: how many states it has and how many bytes they
take. A state takes 32 bytes, a transition of a state with several 8 bytes more, and a choice 4 bytes
for each state that it leads to. The automaton reads a text forward or backward, byte by byte.

Sets are drafted with shared states. Forward, states that agree in all their transitions are one, as
far as a table of ten thousand places remembers them; backward, the states behind equal beginnings
are one, as far as a table of a thousand places does. In both tables an entry displaces an earlier
one at the same place.
-/

namespace RegexGolf.Regex

structure Draft where
  states : Nat
  bytes : Nat
  deriving DecidableEq, Repr

def roomLimit : Nat := 10 * 1024 * 1024

namespace Draft

def blank : Draft := ⟨0, 0⟩

def tooLarge (d : Draft) : Bool := roomLimit < d.bytes

def add (n : Nat) (d : Draft) : Draft := ⟨d.states + n, d.bytes + 32 * n⟩

def fork (n : Nat) (d : Draft) : Draft := ⟨d.states + 1, d.bytes + 32 + 8 * n⟩

def link (n : Nat) (d : Draft) : Draft := { d with bytes := d.bytes + 4 * n }

/-- The place of a key in a table of the given size: its numbers are hashed one after the other. -/
def place (size : UInt64) (key : List Nat) : Nat :=
  let hash := key.foldl (fun h n => (h ^^^ n.toUInt64) * 1099511628211) 14695981039346656037
  (hash % size).toNat

structure Transition where
  range : Utf8.ByteRange
  next : Nat
  deriving DecidableEq, Repr

/-- A state whose transitions are not all known. Of the last one it is open where it leads. -/
structure OpenState where
  closed : List Transition
  last : Option Utf8.ByteRange

def OpenState.close (s : OpenState) (next : Nat) : List Transition :=
  match s.last with
  | some range => s.closed ++ [⟨range, next⟩]
  | none => s.closed

structure Sharing where
  draft : Draft
  table : Std.HashMap Nat (List Transition × Nat)

namespace Sharing

def find? (s : Sharing) (slot : Nat) (transitions : List Transition) : Option Nat :=
  match s.table[slot]? with
  | some (known, state) => if known = transitions then some state else none
  | none => none

def state (s : Sharing) (transitions : List Transition) : Nat × Sharing :=
  let slot := place 10000 (transitions.flatMap fun t => [t.range.first, t.range.last, t.next])
  match s.find? slot transitions with
  | some state => (state, s)
  | none =>
    let ⟨draft, table⟩ := s
    (draft.states,
      ⟨draft.fork transitions.length, table.insert slot (transitions, draft.states)⟩)

def closeAll (s : Sharing) (target : Nat) (branch : List OpenState) : Nat × Sharing :=
  branch.foldr (fun o (next, s) => s.state (o.close next)) (target, s)

def followed : List OpenState → Utf8.Path → Nat
  | o :: branch, range :: path => if o.last = some range then followed branch path + 1 else 0
  | _, _ => 0

/-- Adds a path to a branch. What follows the state where it leaves the branch is closed. -/
def addPath (target : Nat) : List OpenState × Sharing → Utf8.Path → List OpenState × Sharing
  | (branch, s), path =>
    let n := followed branch path
    let (next, s) := s.closeAll target (branch.drop (n + 1))
    let turning := match branch[n]? with
      | some o => o.close next
      | none => []
    let states := match path.drop n with
      | [] => []
      | range :: rest => ⟨turning, some range⟩ :: rest.map fun range => ⟨[], some range⟩
    (branch.take n ++ states, s)

end Sharing

def setForward (paths : List Utf8.Path) (d : Draft) : Draft :=
  let target := d.states
  let start : List OpenState × Sharing := ([⟨[], none⟩], ⟨d.add 1, ∅⟩)
  let (branch, s) := paths.foldl (Sharing.addPath target) start
  (s.closeAll target branch).2.draft

structure Tracing where
  draft : Draft
  table : Std.HashMap Nat (Nat × Utf8.ByteRange × Nat)

namespace Tracing

def find? (t : Tracing) (slot source : Nat) (range : Utf8.ByteRange) : Option Nat :=
  match t.table[slot]? with
  | some (known, range', state) => if known = source ∧ range' = range then some state else none
  | none => none

def step : Nat × Tracing → Utf8.ByteRange → Nat × Tracing
  | (source, t), range =>
    let slot := place 1000 [source, range.first, range.last]
    match t.find? slot source range with
    | some state => (state, t)
    | none =>
      let ⟨draft, table⟩ := t
      (draft.states, ⟨draft.add 1, table.insert slot (source, range, draft.states)⟩)

def addPath (source : Nat) (t : Tracing) (path : Utf8.Path) : Tracing :=
  let t := (path.foldl step (source, t)).2
  { t with draft := t.draft.link 1 }

end Tracing

def setBackward (paths : List Utf8.Path) (d : Draft) : Draft :=
  (paths.foldl (Tracing.addPath (d.states + 1)) ⟨d.add 2, ∅⟩).draft

/-- Adds a set. A set of ASCII characters is one state. -/
def addSet (backward : Bool) (is : Intervals) (paths : List Utf8.Path) (d : Draft) : Draft :=
  if is.all fun i => i.2 < 0x80 then (d.add 1).fork is.length
  else if backward then d.setBackward paths
  else d.setForward paths

/-- Words that are read together, cut behind each word that ends here: the parts between, which hold
the rests of longer words, and the number of ends. An end that repeats the first is no new one while
no longer word has come. -/
def cuts : List (List Nat) → List (List (List Nat)) × Nat
  | words =>
    let (finished, current, ends, _) := words.foldl
      (fun (finished, current, ends, seen) word =>
        if word.isEmpty then
          if !seen && 0 < ends then (finished, current, ends, seen)
          else (current.reverse :: finished, [], ends + 1, seen)
        else (finished, word :: current, ends, true))
      (([] : List (List (List Nat))), ([] : List (List Nat)), 0, false)
    ((current.reverse :: finished).reverse, ends)

def byFirst (words : List (List Nat)) : List (List (List Nat)) :=
  let firsts := (words.filterMap List.head?).eraseDups
  firsts.map fun b => words.filterMap fun
    | c :: rest => if c = b then some rest else none
    | [] => none

/-- Adds the tree of several words: at each branching a choice, and a state for every part between
the ends. -/
def addTree : Nat → List (List Nat) → Draft → Draft
  | 0, _, d => d
  | fuel + 1, words, d =>
    let (groups, ends) := cuts words
    let groups := (groups.map byFirst).filter fun g => !g.isEmpty
    let d := groups.foldl
      (fun d group =>
        let d := group.foldl
          (fun d rests => if rests.all List.isEmpty then d else addTree fuel rests d) d
        if group.length = 1 then d.add 1 else d.fork group.length) d
    (d.add 1).link (groups.length + ends)

def addWords (backward : Bool) (words : List (List Nat)) (d : Draft) : Draft :=
  let words := if backward then words.map List.reverse else words
  addTree ((words.map List.length).foldl max 0 + 1) words (d.add 1)

/-- A draft of an expression with whether it ends in a choice, which takes room for what follows. -/
abbrev Ended := Draft × Bool

def follow (d : Draft) (opened : Bool) : Draft := if opened then d.link 1 else d

def more (copy : Draft → Ended) : Nat → Ended → Ended
  | 0, e => e
  | n + 1, (d, opened) =>
    if d.tooLarge then (d, opened)
    else
      let (d, opened') := copy d
      more copy n (d.follow opened, opened')

def exactly (copy : Draft → Ended) (n : Nat) (d : Draft) : Ended :=
  match n with
  | 0 => (d.add 1, false)
  | n + 1 => more copy n (copy d)

def optional (copy : Draft → Ended) : Nat → Ended → Ended
  | 0, e => e
  | n + 1, (d, opened) =>
    if d.tooLarge then (d, opened)
    else
      let (d, opened') := copy (d.add 1)
      optional copy n ((d.follow opened).link 2, opened')

/-- A repetition; `consuming` tells whether every copy takes at least one byte. -/
def repetition (copy : Draft → Ended) (consuming : Bool) (least : Nat) (most : Option Nat)
    (d : Draft) : Ended :=
  match least, most with
  | 0, some 1 =>
    let (d, opened) := copy (d.add 1)
    (((d.add 1).link 2).follow opened, false)
  | 0, none =>
    if consuming then
      let (d, opened) := copy (d.add 1)
      ((d.link 1).follow opened, true)
    else
      let (d, opened) := copy d
      (((d.add 3).link 4).follow opened, false)
  | least + 1, none =>
    let (d, opened) := exactly copy (least + 1) d
    (((d.add 1).link 1).follow opened, true)
  | least, some most =>
    if least = most then exactly copy least d
    else
      let (d, opened) := exactly copy least d
      let (d, opened) := optional copy (most - least) (d.add 1, opened)
      (d.follow opened, false)

end Draft

namespace Form

open Draft

mutual

def draft (backward : Bool) : Form → Draft → Ended
  | empty, d | look _, d => (d.add 1, false)
  | literal bytes, d => (d.add bytes.length, false)
  | set is paths, d => (d.addSet backward is paths, false)
  | repeated f least most, d =>
    repetition (draft backward f) (f.leastLength.any (0 < ·)) least most d
  | capture f, d =>
    if backward then draft backward f d
    else
      let (d, opened) := draft backward f (d.add 1)
      ((d.add 1).follow opened, false)
  | seq fs, d => draftParts backward fs d
  | alt fs, d =>
    match fs.mapM bytes? with
    | some words => (d.addWords backward words, false)
    | none => (draftBranches backward 0 fs d, false)

def draftParts (backward : Bool) : List Form → Draft → Ended
  | [], d => (d.add 1, false)
  | [f], d => draft backward f d
  | f :: rest, d =>
    if backward then
      let (d, opened) := draftParts backward rest d
      let (d, opened') := draft backward f d
      (d.follow opened, opened')
    else
      let (d, opened) := draft backward f d
      let (d, opened') := draftParts backward rest d
      (d.follow opened, opened')

/-- Drafts alternatives, which begin in a choice and end in one state. These two are added behind the
second alternative. -/
def draftBranches (backward : Bool) (index : Nat) : List Form → Draft → Draft
  | [], d => d
  | f :: rest, d =>
    let (d, opened) := draft backward f d
    let d := if index = 1 then d.add 2 else d
    draftBranches backward (index + 1) rest ((d.link 1).follow opened)

end

/-- Drafts a whole expression. Unless it is bound to the end of the text where reading starts, a loop
over any bytes stands before it; forward it captures what it matches. -/
def draftAll (backward : Bool) (f : Form) : Draft :=
  let anchored := if backward then f.endsText else f.startsText
  let d := if anchored then blank.add 1 else ((blank.add 2).fork 1).link 2
  if backward then
    let (d, opened) := f.draft backward d
    (d.add 1).follow opened
  else
    let (d, opened) := f.draft backward (d.add 1)
    (d.add 2).follow opened

end Form

end RegexGolf.Regex
