import RegexGolf.Synthesis

/-!
Puzzles by name. A puzzle takes text parameters and answers with a text; a registry lists puzzles
in the order of their names, which are matched exactly.
-/

namespace RegexGolf

structure Puzzle where
  run : List String → Except Error String

namespace Puzzle

def listFilter (options : Options) : Puzzle where
  run
    | [] => .error (.missingBlock .positive)
    | [_] => .error (.missingBlock .negative)
    | positive :: negative :: _ => do return (← solve positive negative options).pattern

def echo : Puzzle where
  run params := .ok (" ".intercalate params)

end Puzzle

structure Registry where
  puzzles : List (String × Puzzle)

namespace Registry

def empty : Registry := ⟨[]⟩

def place (id : String) (puzzle : Puzzle) : List (String × Puzzle) → List (String × Puzzle)
  | [] => [(id, puzzle)]
  | (other, held) :: rest =>
    if id < other then (id, puzzle) :: (other, held) :: rest
    else if id = other then (id, puzzle) :: rest
    else (other, held) :: place id puzzle rest

def register (r : Registry) (id : String) (puzzle : Puzzle) : Registry :=
  ⟨place id puzzle r.puzzles⟩

def get (r : Registry) (id : String) : Except Error Puzzle :=
  match r.puzzles.lookup id with
  | some puzzle => .ok puzzle
  | none => .error (.unknownPuzzle id)

def ids (r : Registry) : List String := r.puzzles.map (·.1)

def listFilterId : String := "RE"

def standard : Registry := empty.register listFilterId (.listFilter {})

end Registry

end RegexGolf
