/-!
Files by their paths. A path is followed name by name from the root or from the working folder; a
path that leads to no file, or to something that cannot be read, meets an obstacle on the way.
-/

namespace RegexGolf.CommandLine

inductive Obstacle where
  | missing
  | denied
  | notFolder
  | isFolder
  | nameTooLong
  | notText
  /-- An obstacle that only the system can put into words. -/
  | other (reason : String)
  deriving DecidableEq, Repr

def Obstacle.message : Obstacle → String
  | missing => "No such file or directory (os error 2)"
  | denied => "Permission denied (os error 13)"
  | notFolder => "Not a directory (os error 20)"
  | isFolder => "Is a directory (os error 21)"
  | nameTooLong => "File name too long (os error 36)"
  | notText => "stream did not contain valid UTF-8"
  | other reason => reason

/-- Files, each under the names that lead to it from the root. -/
structure Disk where
  files : List (List String × ByteArray)
  /-- The names that lead to the working folder. -/
  working : List String

namespace Disk

inductive Entry where
  | file (bytes : ByteArray)
  | folder

/-- A folder exists if the way to a file or to the working folder passes through it. -/
def entry? (d : Disk) (place : List String) : Option Entry :=
  match d.files.lookup place with
  | some bytes => some (.file bytes)
  | none =>
    if (d.working :: d.files.map Prod.fst).any place.isPrefixOf then some .folder else none

def nameLimit : Nat := 255

def pathLimit : Nat := 4095

/-- Follows one name of a path. The root is its own parent. -/
def follow (d : Disk) (place : List String) (name : String) : Except Obstacle (List String) :=
  match d.entry? place with
  | some .folder =>
    if name = "." then .ok place
    else if name = ".." then .ok place.dropLast
    else if nameLimit < name.utf8ByteSize then .error .nameTooLong
    else if (d.entry? (place ++ [name])).isSome then .ok (place ++ [name])
    else .error .missing
  | _ => .error .notFolder

def names (path : String) : List String := (path.splitOn "/").filter (· != "")

/-- The bytes of the file that a path leads to. A path that ends with a slash asks for a folder. -/
def read (d : Disk) (path : String) : Except Obstacle ByteArray :=
  if path.isEmpty then .error .missing
  else if pathLimit < path.utf8ByteSize then .error .nameTooLong
  else do
    let start := if path.toList.head? = some '/' then [] else d.working
    let place ← (names path).foldlM d.follow start
    match d.entry? place with
    | some (.file bytes) =>
      if path.toList.getLast? = some '/' then .error .notFolder else .ok bytes
    | some .folder => .error .isFolder
    | none => .error .missing

/-- The working folder with the given files in it. Outside it stand the standard input and the
null device, under their usual names, and nothing else. -/
def ofFolder (files : List (String × ByteArray)) (stdin : ByteArray) : Disk :=
  let working := ["work"]
  { files :=
      (["dev", "null"], .empty) :: (["dev", "stdin"], stdin) ::
        files.map fun (name, bytes) => (working ++ (names name).filter (· != "."), bytes)
    working }

end Disk

end RegexGolf.CommandLine
