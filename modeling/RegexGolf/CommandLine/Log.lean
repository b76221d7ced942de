import RegexGolf.Synthesis

/-!
What a run tells while it works. Every stage reports what it left, each pick and each appended
fragment is told, and a weighted pass that stops early is a warning.
-/

namespace RegexGolf.CommandLine

open Text.Quoted

inductive Event where
  | generated (fragments window : Nat)
  | expanded (fragments : Nat)
  | filtered (fragments : Nat)
  | pick (p : Score.Pick)
  | stalled (uncovered picked : Nat)
  | picksDone (converged : Bool)
  | scored (strategy : Strategy) (scored : Nat)
  | append (p : Part)
  | built (pattern : String) (converged : Bool)

namespace Event

def isWarning : Event → Bool
  | stalled _ _ => true
  | _ => false

def source : Event → String
  | pick _ | stalled _ _ => "regolf::engine::score"
  | append _ => "regolf::engine::select"
  | _ => "regolf::engine::synth"

def field (name value : String) : String := " " ++ name ++ "=" ++ value

def count (name : String) (n : Nat) : String := field name (toString n)

def flag (name : String) (b : Bool) : String := field name (if b then "true" else "false")

def message : Event → String
  | generated fragments window => "generated" ++ count "fragments" fragments ++ count "window" window
  | expanded fragments => "expanded" ++ count "fragments" fragments
  | filtered fragments => "filtered" ++ count "fragments" fragments
  | pick p =>
    "weighted pick" ++ field "fragment" (quote p.fragment) ++ count "coverage" p.coverage ++
      count "hardest" p.hardest ++ count "hardest_matchers" p.matchers ++
      count "remaining" p.remaining
  | stalled uncovered picked =>
    "weighted scoring stopped: hardest strings have no usable fragment" ++
      count "uncovered" uncovered ++ count "picked" picked
  | picksDone converged => "weighted picks done" ++ flag "converged" converged
  | scored strategy n =>
    let name := match strategy with
      | .weighted => "Weighted"
      | .simple => "Simple"
    "scored" ++ field "strategy" name ++ count "scored" n
  | append p =>
    "cover append" ++ field "fragment" (quote p.fragment) ++ count "score" p.score ++
      count "remaining" p.remaining
  | built pattern converged => "built" ++ field "pattern" pattern ++ flag "converged" converged

def line (time : String) (e : Event) : String :=
  time ++ (if e.isWarning then "  WARN " else " DEBUG ") ++ e.source ++ ": " ++ e.message ++ "\n"

end Event

def scoringEvents : Scoring → List Event
  | .weighted outcome =>
    let stalled := if outcome.converged then [] else
      [Event.stalled outcome.uncovered outcome.picks.length]
    outcome.picks.map .pick ++ stalled ++ [.picksDone outcome.converged]
  | .simple _ => []

/-- What a run tells from its start to its end. A run that fails does so while it sifts the widened
fragments. -/
def events (lists : WordLists) (options : Options)
    (result : Except Regex.PatternError Synthesis) : List Event :=
  match result with
  | .error _ =>
    let generated := Fragment.ofWords options.cutting lists.positives
    [.generated generated.size options.cutting.window,
      .expanded (Fragment.expand generated).size]
  | .ok s =>
    [.generated s.generated options.cutting.window, .expanded s.expanded, .filtered s.filtered] ++
      scoringEvents s.scoring ++ [.scored options.strategy s.scored] ++ s.cover.map .append ++
      [.built s.pattern s.converged]

/-- The lines of a log, which leaves out all but warnings unless details are asked for. -/
def logText (time : String) (detailed : Bool) (events : List Event) : String :=
  .join ((events.filter fun e => detailed || e.isWarning).map (Event.line time))

end RegexGolf.CommandLine
