import RegexGolf.Pool

/-!
Widening fragments. A fragment may have any of its characters replaced by a point, anchors apart.
Fragments that hold a bracket are left as they are.
-/

namespace RegexGolf.Fragment

def isAnchor (c : Char) : Bool := c == '^' || c == '$'

/-- Every way to replace some of the characters by a point. -/
def widenings : List Char → List (List Char)
  | [] => [[]]
  | c :: rest =>
    let tails := widenings rest
    if isAnchor c then tails.map (c :: ·)
    else tails.map (c :: ·) ++ tails.map ('.' :: ·)

def hasBracket (fragment : List Char) : Bool := fragment.any fun c => c == '[' || c == ']'

def wildcards (fragment : List Char) : List (List Char) :=
  if hasBracket fragment then [fragment] else widenings fragment

/-- Widens every fragment of a pool; scores are lost. -/
def expand (p : Pool) : Pool :=
  .ofKeys (p.keys.flatMap fun f => (wildcards f.toList).map String.ofList)

end RegexGolf.Fragment
