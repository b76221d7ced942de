import RegexGolf.Alternation
import RegexGolf.Score.WordIndex

/-!
Scores by a set cover that serves the hardest words first. Each round looks at the open words with
the fewest fragments, picks among their fragments the one that matches the most open positives, and
closes every positive that the picked fragments together match. The first of several equally good
fragments is picked, in the order of the words and then of the table.
-/

namespace RegexGolf.Score

structure Pick where
  fragment : String
  /-- How many open positives the fragment matched when it was picked. -/
  coverage : Nat
  /-- How many words had the fewest fragments. -/
  hardest : Nat
  /-- How many fragments those words had. -/
  matchers : Nat
  /-- How many positives were open afterwards. -/
  remaining : Nat
  deriving DecidableEq, Repr

structure Weighted where
  picks : List Pick
  /-- The positives that were open at the end. -/
  uncovered : Nat
  /-- Whether the rounds ran out while there was still something to pick. -/
  exhausted : Bool
  deriving DecidableEq, Repr

namespace Weighted

def scores (w : Weighted) : Pool := .ofList (w.picks.map fun p => (p.fragment, p.coverage))

def converged (w : Weighted) : Bool := w.uncovered == 0

structure Choice where
  entry : Nat
  coverage : Nat
  deriving DecidableEq, Repr

/-- Keeps what was chosen unless the new entry covers strictly more. -/
def better (coverages : Array Nat) (chosen : Option Choice) (entry : Nat) : Option Choice :=
  let coverage := coverages.getD entry 0
  if (chosen.elim 0 (·.coverage)) < coverage then some ⟨entry, coverage⟩ else chosen

def choose (coverages : Array Nat) (hardest : WordIndex) : Option Choice :=
  (hardest.flatMap (·.2)).foldl (better coverages) none

/-- Between two rounds: the open positives, the picked fragments, newest first, and the picks in
the same order. -/
structure Progress where
  free : Open
  alternation : List String
  picks : List Pick
  matcher : Matcher

def round (table : CoverageTable) (positives : List String) (p : Progress) :
    Option (Except Regex.PatternError Progress) :=
  let coverages := (table.map fun e => p.free.count e.hits).toArray
  let hardest := (WordIndex.ofTable table positives p.free).hardest
  match choose coverages hardest with
  | none => none
  | some chosen =>
    let fragment := (table[chosen.entry]?.map (·.fragment)).getD ""
    let alternation := fragment :: p.alternation
    match p.matcher.regex (Alternation.join alternation) with
    | .error e => some (.error e)
    | .ok (r, matcher) =>
      let free : Open := positives.map fun w => !r.isMatch w
      let matchers := hardest.head?.elim 0 fun e => e.2.length
      let pick : Pick :=
        ⟨fragment, chosen.coverage, hardest.length, matchers, free.size⟩
      some (.ok ⟨free, alternation, pick :: p.picks, matcher⟩)

/-- Plays rounds until no positive is open or none can be picked for. Where the table tells the
truth each round closes a positive, so that there are no more rounds than positives. Where it does
not there need not be an end, and the rounds run out. -/
def play (table : CoverageTable) (positives : List String) (rounds : Nat) (p : Progress) :
    Except Regex.PatternError (Weighted × Matcher) :=
  if p.free.size = 0 then .ok (⟨p.picks.reverse, 0, false⟩, p.matcher)
  else
    match round table positives p, rounds with
    | none, _ => .ok (⟨p.picks.reverse, p.free.size, false⟩, p.matcher)
    | some (.error e), _ => .error e
    | some (.ok _), 0 => .ok (⟨p.picks.reverse, p.free.size, true⟩, p.matcher)
    | some (.ok next), rounds + 1 => play table positives rounds next

section

variable {table : CoverageTable} {positives : List String} {p next : Progress}

theorem play_of_size_eq_zero (done : p.free.size = 0) (rounds : Nat) :
    play table positives rounds p = .ok (⟨p.picks.reverse, 0, false⟩, p.matcher) := by
  rw [play.eq_def, if_pos done]

variable (waits : p.free.size ≠ 0)

include waits

theorem play_of_round_eq_none (stops : round table positives p = none) (rounds : Nat) :
    play table positives rounds p = .ok (⟨p.picks.reverse, p.free.size, false⟩, p.matcher) := by
  rw [play.eq_def, if_neg waits, stops]

theorem play_of_round_error {e : Regex.PatternError}
    (fails : round table positives p = some (.error e)) (rounds : Nat) :
    play table positives rounds p = .error e := by
  rw [play.eq_def, if_neg waits, fails]

theorem play_zero_of_round (goes : round table positives p = some (.ok next)) :
    play table positives 0 p = .ok (⟨p.picks.reverse, p.free.size, true⟩, p.matcher) := by
  rw [play.eq_def, if_neg waits, goes]

theorem play_succ_of_round (goes : round table positives p = some (.ok next)) (rounds : Nat) :
    play table positives (rounds + 1) p = play table positives rounds next := by
  rw [play.eq_def, if_neg waits, goes]

end

end Weighted

def weighted (table : CoverageTable) (positives : List String) (m : Matcher) :
    Except Regex.PatternError (Weighted × Matcher) :=
  Weighted.play table positives ((positives.length + 1) * (table.length + 1))
    ⟨List.replicate positives.length true, [], [], m⟩

end RegexGolf.Score
