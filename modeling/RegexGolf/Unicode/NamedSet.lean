import RegexGolf.Unicode.Ranges

/-!
Sets of characters that go by names. A name is held in its loose form: lower case, without blanks,
underscores and hyphens.
-/

namespace RegexGolf.Unicode

structure NamedSet where
  names : List String
  members : Ranges
  deriving DecidableEq, Repr

namespace NamedSet

def contains (s : NamedSet) (c : Char) : Bool := s.members.contains c

def find? (sets : List NamedSet) (name : String) : Option NamedSet :=
  List.find? (fun s => s.names.contains name) sets

end NamedSet

end RegexGolf.Unicode
