import RegexGolf.CommandLine.Disk
import RegexGolf.Options
import RegexGolf.Puzzle

/-!
What the arguments ask for. They come as bytes, of which a text is made only when an argument is
needed. They are read in groups: a flag, an option with its value, or the name of a file. The groups
take effect from left to right, and the first that is wrong, or that asks for help or the version,
ends the reading.
-/

namespace RegexGolf.CommandLine

/-- The arguments as texts, up to the first that is no text, and that one. -/
def decode : List ByteArray → List String × Option ByteArray
  | [] => ([], none)
  | argument :: rest =>
    match String.fromUTF8? argument with
    | none => ([], some argument)
    | some text => (text :: (decode rest).1, (decode rest).2)

/-- The options that take a value, in the next argument or behind an equals sign. -/
inductive Setting where
  | puzzle
  | strategy
  | window
  deriving DecidableEq, Repr

def Setting.name : Setting → String
  | puzzle => "--puzzle"
  | strategy => "--strategy"
  | window => "--window"

inductive Group where
  | help
  | version
  | verbose
  | color (on : Bool)
  | noCaseVariants
  | noQuantifiers
  | set (setting : Setting) (value : String)
  | file (name : String)
  | valueMissing (setting : Setting)
  | unknown (argument : String)
  deriving DecidableEq, Repr

namespace Group

def dropAll (lead : List Char) : Nat → List Char → List Char
  | 0, text => text
  | fuel + 1, text =>
    if lead.isPrefixOf text then dropAll lead fuel (text.drop lead.length) else text

/-- The value behind an option's name and an equals sign, if the argument has this form. A
repetition of the name and the sign is passed over. -/
def attached? (argument : String) (setting : Setting) : Option Group :=
  let lead := (setting.name ++ "=").toList
  let text := argument.toList
  if lead.isPrefixOf text then
    some (.set setting (.ofList (dropAll lead text.length text)))
  else none

def setting? (argument : String) : Option Setting :=
  [Setting.puzzle, .strategy, .window].find? fun s => s.name == argument

def single (argument : String) : Group :=
  match argument with
  | "-h" | "--help" => help
  | "-V" | "--version" => version
  | "-v" | "--verbose" => verbose
  | "--color" => color true
  | "--no-color" => color false
  | "--no-case-variants" => noCaseVariants
  | "--no-quantifiers" => noQuantifiers
  | _ =>
    match [Setting.puzzle, .strategy, .window].findSome? (attached? argument) with
    | some group => group
    | none =>
      if argument.toList.head? == some '-' && argument != "-" then unknown argument
      else file argument

def read : List String → List Group
  | [] => []
  | [argument] =>
    match setting? argument with
    | some setting => [valueMissing setting]
    | none => [single argument]
  | argument :: value :: rest =>
    match setting? argument with
    | some setting => set setting value :: read rest
    | none => single argument :: read (value :: rest)

end Group

/-- What is asked for, with the files newest first. -/
structure Request where
  puzzle : String := Registry.listFilterId
  options : Options := {}
  verbose : Bool := false
  color : Bool := false
  files : List String := []
  deriving DecidableEq, Repr

inductive Refusal where
  | valueMissing (setting : Setting)
  | unknownOption (argument : String)
  | badStrategy (value : String)
  | badWindow (value : String)
  | filesExpected
  | stdinTwice
  | unreadable (name : String) (why : Obstacle)
  deriving DecidableEq, Repr

inductive Stop where
  | help
  | version
  | refused (why : Refusal)
  deriving DecidableEq, Repr

/-- A whole number that fits into 64 bits, with an optional plus sign. -/
def wholeNumber? (text : List Char) : Option Nat :=
  let digits := match text with
    | '+' :: rest => rest
    | _ => text
  if digits.isEmpty || !digits.all Char.isDigit then none
  else
    let n := digits.foldl (fun n d => n * 10 + (d.toNat - '0'.toNat)) 0
    if n < UInt64.size then some n else none

def window? (value : String) : Option Nat := (wholeNumber? value.toList).filter (0 < ·)

def strategy? (value : String) : Option Strategy :=
  [Strategy.weighted, .simple].find? fun s => s.label == value

namespace Request

def setWindow (r : Request) (window : Nat) : Request :=
  { r with options := { r.options with cutting := { r.options.cutting with window := window } } }

def setStrategy (r : Request) (strategy : Strategy) : Request :=
  { r with options := { r.options with strategy := strategy } }

def dropCaseVariants (r : Request) : Request :=
  { r with
    options := { r.options with cutting := { r.options.cutting with caseVariants := false } } }

def dropQuantifiers (r : Request) : Request :=
  { r with
    options := { r.options with cutting := { r.options.cutting with quantifiers := false } } }

def apply (r : Request) : Group → Except Stop Request
  | .help => .error .help
  | .version => .error .version
  | .verbose => .ok { r with verbose := true }
  | .color on => .ok { r with color := on }
  | .noCaseVariants => .ok r.dropCaseVariants
  | .noQuantifiers => .ok r.dropQuantifiers
  | .set .puzzle value => .ok { r with puzzle := value }
  | .set .strategy value =>
    match strategy? value with
    | some strategy => .ok (r.setStrategy strategy)
    | none => .error (.refused (.badStrategy value))
  | .set .window value =>
    match window? value with
    | some window => .ok (r.setWindow window)
    | none => .error (.refused (.badWindow value))
  | .file name => .ok { r with files := name :: r.files }
  | .valueMissing setting => .error (.refused (.valueMissing setting))
  | .unknown argument => .error (.refused (.unknownOption argument))

def applyAll : Request → List Group → Except Stop Request
  | r, [] => .ok r
  | r, group :: rest =>
    match r.apply group with
    | .error stop => .error stop
    | .ok next => applyAll next rest

/-- What the arguments ask for, before any file is looked at. A terminal is coloured unless they say
otherwise. -/
def ofArguments (arguments : List String) (terminal : Bool := false) : Except Stop Request :=
  applyAll { color := terminal } (Group.read arguments)

end Request

end RegexGolf.CommandLine
