import RegexGolf.Coverage

/-!
Scores by the number of positives that a fragment matches. A fragment that matches an open positive
closes all of its positives, and any that were still open after that would count twice.
-/

namespace RegexGolf.Score

abbrev Open := List Bool

def Open.has (o : Open) (i : Nat) : Bool := o.getD i false

/-- How many of the given places are open; a place listed twice counts twice. -/
def Open.count (o : Open) (places : List Nat) : Nat := places.countP o.has

def Open.size (o : Open) : Nat := o.countP id

def Open.close (o : Open) (places : List Nat) : Open :=
  o.mapIdx fun i free => free && !places.contains i

def simpleFrom (free : Open) : CoverageTable → List (String × Nat)
  | [] => []
  | e :: rest =>
    if e.hits.any free.has then
      let left := free.close e.hits
      (e.fragment, e.hits.length + left.count e.hits) :: simpleFrom left rest
    else (e.fragment, e.hits.length) :: simpleFrom free rest

def simple (table : CoverageTable) (positives : Nat) : Pool :=
  .ofList (simpleFrom (List.replicate positives true) table)

end RegexGolf.Score
