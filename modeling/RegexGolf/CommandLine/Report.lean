import RegexGolf.Synthesis

/-!
The report on a solution: what each stage left, the weighted picks, the result and the durations,
in colours if wanted.
-/

namespace RegexGolf.CommandLine

inductive Style where
  | dim
  | bold
  | green
  | yellow
  | blue
  | cyan
  | gray
  deriving DecidableEq, Repr

def Style.code : Style → String
  | dim => "\x1B[2m"
  | bold => "\x1B[1m"
  | green => "\x1B[32m"
  | yellow => "\x1B[33m"
  | blue => "\x1B[34m"
  | cyan => "\x1B[36m"
  | gray => "\x1B[90m"

namespace Report

def paint (color : Bool) (style : Style) (text : String) : String :=
  if color then style.code ++ text ++ "\x1B[0m" else text

def strong (color : Bool) (style : Style) (text : String) : String :=
  paint color .bold (paint color style text)

def heading (color : Bool) (title : String) : String :=
  "\n" ++ paint color .gray ("━━━ " ++ title ++ " ━━━") ++ "\n"

def stageLabel (name : String) : String :=
  name ++ .ofList (List.replicate (9 - name.length) ' ')

def stage (color : Bool) (duration : String) (name : String) (produced : Nat) : String :=
  let shown := if 0 < produced then paint color .green ("✓ " ++ toString produced)
    else paint color .dim ("✗ " ++ toString produced)
  "  " ++ paint color .blue (stageLabel name) ++ " " ++ shown ++ " " ++
    paint color .dim duration ++ "\n"

def pick (color : Bool) (place : Nat) (p : Score.Pick) : String :=
  "  " ++ paint color .gray ("[" ++ toString place ++ "]") ++ " " ++
    strong color .green p.fragment ++ " " ++ paint color .dim "covers" ++ " " ++
    paint color .yellow (toString p.coverage) ++ "  " ++
    paint color .dim ("│ hardest: " ++ toString p.hardest ++ " │ left:") ++ " " ++
    paint color .blue (toString p.remaining) ++ "\n"

def picks (color : Bool) : List Score.Pick → String
  | [] => ""
  | ps => heading color "Weighted picks" ++ .join (ps.mapIdx (pick color))

def render (color : Bool) (duration : String) (s : Solution) : String :=
  let run := s.synthesis
  let title := "⚙  Synthesizing: " ++ toString s.lists.positives.length ++ " positive / " ++
    toString s.lists.negatives.length ++ " negative"
  "\n" ++ strong color .cyan title ++ "\n" ++
    heading color "Pipeline" ++
    stage color duration "generate" run.generated ++
    stage color duration "expand" run.expanded ++
    stage color duration "filter" run.filtered ++
    stage color duration s.strategy.label run.scored ++
    stage color duration "select" run.selected ++
    picks color run.scoring.picks ++
    heading color "Result" ++
    "  " ++ strong color .green s.pattern ++ "\n" ++
    "  " ++ paint color .dim (toString run.selected ++ " alternatives from " ++
      toString s.candidates.length ++ " scored candidates") ++ "\n" ++
    heading color "Timing" ++
    "  Total: " ++ paint color .green duration ++ "  │  Filter: " ++
    paint color .cyan duration ++ "  │  Score: " ++ paint color .dim duration ++ "\n\n"

end Report

end RegexGolf.CommandLine
