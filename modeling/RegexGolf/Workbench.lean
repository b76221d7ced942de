import RegexGolf.Synthesis

/-!
The stages of a run one at a time, on a bench that holds what they leave for each other. A stage
that fails leaves the bench as it was, so it answers with an error alone.
-/

namespace RegexGolf

structure Workbench where
  lists : WordLists
  pool : Pool
  table : CoverageTable
  scores : Pool
  matcher : Matcher
  /-- The pattern that was built last. -/
  built : String

namespace Workbench

def empty : Workbench := ⟨⟨[], []⟩, .empty, [], .empty, .empty, ""⟩

def take (positive negative : String) : Except Error Workbench := do
  return { empty with lists := ← WordLists.ofBlocks positive negative }

def generate (b : Workbench) (cutting : Cutting) : Workbench :=
  { b with pool := Fragment.ofWords cutting b.lists.positives }

def insert (b : Workbench) (entries : Pool) : Workbench :=
  { b with pool := b.pool.merge entries }

def expand (b : Workbench) : Workbench := { b with pool := Fragment.expand b.pool }

def lift {α : Type} : Except Regex.PatternError α → Except Error α
  | .ok a => .ok a
  | .error e => .error (.malformed e)

def filter (b : Workbench) : Except Error Workbench := do
  return { b with table := ← lift (Coverage.table b.pool b.lists.positives b.lists.negatives) }

def scoreSimple (b : Workbench) : Workbench :=
  { b with scores := Score.simple b.table b.lists.positives.length }

def scoreWeighted (b : Workbench) : Except Error (Score.Weighted × Workbench) := do
  let (outcome, m) ← lift (Score.weighted b.table b.lists.positives b.matcher)
  return (outcome, { b with scores := outcome.scores, matcher := m })

def build (b : Workbench) : Except Error Workbench := do
  let (cover, m) ← lift (Cover.build b.scores b.lists.positives b.lists.negatives b.matcher)
  return { b with matcher := m, built := cover.pattern }

/-- Judges a pattern, by default the one that was built last. -/
def validate (b : Workbench) (pattern : Option String) : Except Error (Bool × Workbench) := do
  let (answer, m) ←
    lift (b.matcher.validate (pattern.getD b.built) b.lists.positives b.lists.negatives)
  return (answer, { b with matcher := m })

def contains (b : Workbench) (pattern : Option String) : Except Error (Bool × Workbench) := do
  let (answer, m) ←
    lift (b.matcher.contains (pattern.getD b.built) b.lists.positives b.lists.negatives)
  return (answer, { b with matcher := m })

def isMatch (b : Workbench) (pattern : Option String) (text : String) :
    Except Error (Bool × Workbench) := do
  let (r, m) ← lift (b.matcher.regex (pattern.getD b.built))
  return (r.isMatch text, { b with matcher := m })

end Workbench

end RegexGolf
