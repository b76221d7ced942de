import RegexGolf.CommandLine.Log
import RegexGolf.CommandLine.Report
import RegexGolf.CommandLine.Request

/-!
The program as a function from its surroundings to its output. The exit code is 0 for a pattern,
for help and for the version, 1 for a run that fails and 2 for arguments or files that cannot be
used; only with exit code 0 is anything written to the standard output. An argument that is needed
and is no text ends the process in its own way, with exit code 101.
-/

namespace RegexGolf.CommandLine

/-- What the program finds when it is started. -/
structure Surroundings where
  /-- The bytes of the file that a path leads to. -/
  file : String → Except Obstacle ByteArray
  stdin : ByteArray
  /-- Whether the log goes into detail. -/
  debug : Bool
  /-- What is written for a point in time. -/
  time : String
  /-- What is written for a duration. -/
  duration : String

structure Output where
  exit : Nat
  stdout : String
  stderr : String
  deriving DecidableEq, Repr

def versionText : String := "regolf 0.1.0"

def helpText : String :=
  versionText ++ "

Regex golf: find a regex matching every line of one list and no line of another.

Usage:
  regolf [OPTIONS] <positive-file> <negative-file>

  Either file may be '-' to read that list from stdin.

Options:
  --puzzle <id>              Puzzle to run. Default: " ++ Registry.listFilterId ++ "
  --strategy <name>          Scoring strategy: weighted (default) or simple.
  --window <n>               Longest fragment window. Default: " ++
    toString ({} : Cutting).window ++ "
  --no-case-variants         Do not add upper/lower-cased fragments.
  --no-quantifiers           Do not add +, * and ? fragment suffixes.
  -v, --verbose              Print a synthesis report to stdout before the pattern.
  --color                    Force ANSI color output.
  --no-color                 Disable ANSI color output.
  -h, --help                 Show this help message.
  -V, --version              Print version information.

Environment:
  REGOLF_DEBUG=1             Emit engine debug traces on stderr.
  RUST_LOG=<filter>          Full tracing filter (overrides REGOLF_DEBUG).

Exit codes:
  0  Success.
  1  No pattern found, or the run failed.
  2  Invalid arguments or unreadable input.
"

def Refusal.message : Refusal → String
  | valueMissing setting => "error: " ++ setting.name ++ " expects a value"
  | unknownOption argument => "error: unknown option '" ++ argument ++ "'"
  | badStrategy value =>
    "error: invalid --strategy '" ++ value ++ "' (expected weighted or simple)"
  | badWindow value => "error: invalid --window '" ++ value ++ "' (expected a positive integer)"
  | filesExpected => "error: expected a positive and a negative file\n\n" ++ helpText
  | stdinTwice => "error: stdin can supply only one of the two lists"
  | unreadable "-" why => "error: failed to read stdin: " ++ why.message
  | unreadable name why => "error: failed to read '" ++ name ++ "': " ++ why.message

def Stop.output : Stop → Output
  | help => ⟨0, helpText ++ "\n", ""⟩
  | version => ⟨0, versionText ++ "\n", ""⟩
  | refused why => ⟨2, "", why.message ++ "\n"⟩

namespace Surroundings

/-- The bytes of a list; the name `-` stands for the standard input. -/
def source (s : Surroundings) (name : String) : Except Obstacle ByteArray :=
  if name = "-" then .ok s.stdin else s.file name

def readList (s : Surroundings) (name : String) : Except Stop String :=
  match s.source name with
  | .error why => .error (.refused (.unreadable name why))
  | .ok bytes =>
    match String.fromUTF8? bytes with
    | none => .error (.refused (.unreadable name .notText))
    | some text => .ok text

def readLists (s : Surroundings) (r : Request) : Except Stop (String × String) :=
  match r.files.reverse with
  | [positive, negative] => do
    if positive = "-" ∧ negative = "-" then throw (.refused .stdinTwice)
    return (← s.readList positive, ← s.readList negative)
  | _ => .error (.refused .filesExpected)

def ending (log report : String) : Except Error String → Output
  | .ok pattern => ⟨0, report ++ pattern ++ "\n", log⟩
  | .error e => ⟨1, "", log ++ "error: " ++ e.message ++ "\n"⟩

def filterLists (s : Surroundings) (r : Request) (positive negative : String) : Output :=
  match WordLists.ofBlocks positive negative with
  | .error e => ending "" "" (.error e)
  | .ok lists =>
    let result := Synthesis.run lists r.options
    let log := logText s.time s.debug (events lists r.options result)
    match Solution.ofRun lists r.options result with
    | .error e => ending log "" (.error e)
    | .ok solution =>
      let report := if r.verbose then Report.render r.color s.duration solution else ""
      ending log report (.ok solution.pattern)

def runPuzzle (r : Request) (positive negative : String) : Output :=
  ending "" "" do (← Registry.standard.get r.puzzle).run [positive, negative]

def act (s : Surroundings) : Except Stop Request → Output
  | .error stop => stop.output
  | .ok r =>
    match s.readLists r with
    | .error stop => stop.output
    | .ok (positive, negative) =>
      if r.puzzle = Registry.listFilterId then s.filterLists r positive negative
      else runPuzzle r positive negative

/-- Runs the program, away from a terminal, on arguments that are texts. -/
def run (s : Surroundings) (arguments : List String) : Output :=
  s.act (Request.ofArguments arguments)

end Surroundings

/-- What the process adds to the surroundings when it is launched. -/
structure Launch extends Surroundings where
  /-- Whether the standard output is a terminal. -/
  terminal : Bool
  /-- What is written about an argument that is no text. -/
  complaint : ByteArray → String

/-- Runs the program on its arguments. One that is no text ends the process as soon as it is needed:
when those before it have been accepted, or when it would be the value of an option. -/
def Launch.run (l : Launch) (arguments : List ByteArray) : Output :=
  let (texts, garbled) := decode arguments
  match garbled, Request.ofArguments texts l.terminal with
  | some argument, .ok _ | some argument, .error (.refused (.valueMissing _)) =>
    ⟨101, "", l.complaint argument⟩
  | _, asked => l.act asked

end RegexGolf.CommandLine
