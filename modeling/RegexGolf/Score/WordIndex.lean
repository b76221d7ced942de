import RegexGolf.Score.Simple

/-!
Which entries of a table match a word that is still open. The index lists each such word once, in
the order of the words, with the places of its entries in increasing order.
-/

namespace RegexGolf.Score

/-- Words in increasing order, each with the places of its entries. -/
abbrev WordIndex := List (String × List Nat)

namespace WordIndex

/-- Notes an entry for a word, newest first; an entry that comes in one go is noted once. -/
def note (word : String) (entry : Nat) : WordIndex → WordIndex
  | [] => [(word, [entry])]
  | (w, entries) :: rest =>
    if word < w then (word, [entry]) :: (w, entries) :: rest
    else if word = w then
      (w, if entries.head? = some entry then entries else entry :: entries) :: rest
    else (w, entries) :: note word entry rest

def noteHits (positives : List String) (free : Open) (entry : Nat) (hits : List Nat)
    (index : WordIndex) : WordIndex :=
  hits.foldl
    (fun index i => if free.has i then note (positives.getD i "") entry index else index) index

def noteTable (positives : List String) (free : Open) :
    Nat → CoverageTable → WordIndex → WordIndex
  | _, [], index => index
  | entry, e :: rest, index =>
    noteTable positives free (entry + 1) rest (noteHits positives free entry e.hits index)

def ofTable (table : CoverageTable) (positives : List String) (free : Open) : WordIndex :=
  (noteTable positives free 0 table []).map fun (w, entries) => (w, entries.reverse)

def hardest (index : WordIndex) : WordIndex :=
  match (index.map fun e => e.2.length).min? with
  | none => []
  | some lowest => index.filter fun e => e.2.length == lowest

end WordIndex

end RegexGolf.Score
