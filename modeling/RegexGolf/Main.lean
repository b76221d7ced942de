import RegexGolf.CommandLine.Program

/-!
The program's outer layer: it fetches what the arguments name and writes what the program answers.
Times and durations are not measured; a hyphen stands for them.
-/

namespace RegexGolf.CommandLine

/-- The obstacle that a failed reading met. A folder is noticed only when it is read from. -/
def obstacle : IO.Error → Obstacle
  | .noFileOrDirectory .. => .missing
  | .permissionDenied .. => .denied
  | .inappropriateType _ code _ => if code = 21 then .isFolder else .notFolder
  | .invalidArgument _ _ "name too long" => .nameTooLong
  | e => .other (toString e)

def fetch (name : String) : IO (String × Except Obstacle ByteArray) := do
  try return (name, .ok (← IO.FS.readBinFile name))
  catch e => return (name, .error (obstacle e))

def namedFiles (arguments : List String) : List String :=
  match Request.ofArguments arguments with
  | .ok r => r.files
  | .error _ => []

def serve (arguments : List String) : IO UInt32 := do
  let debug := (← IO.getEnv "REGOLF_DEBUG").isSome
  let terminal ← (← IO.getStdout).isTty
  let names := namedFiles arguments
  let stdin ← if names.contains "-" then (← IO.getStdin).readBinToEnd else pure .empty
  let files ← (names.filter (· != "-")).mapM fetch
  let file := fun name => (files.lookup name).getD (.error .missing)
  let launch : Launch := ⟨⟨file, stdin, debug, "-", "-"⟩, terminal, fun _ => ""⟩
  let output := launch.run (arguments.map String.toUTF8)
  (← IO.getStdout).putStr output.stdout
  (← IO.getStderr).putStr output.stderr
  return output.exit.toUInt32

end RegexGolf.CommandLine

def main (arguments : List String) : IO UInt32 := RegexGolf.CommandLine.serve arguments
