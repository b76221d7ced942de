import RegexGolf.Regex.Draft

/-!
Which expressions are too large. An expression fits if both drafts of its automaton, the one that
reads forward and the one that reads backward, keep within the limit. Most expressions are small, and
a bound that is easily worked out shows it without a draft.
-/

namespace RegexGolf.Regex

namespace Form

mutual

/-- As many bytes as either draft of a form can take. -/
def bound : Form → Nat
  | empty | look _ => 32
  | literal bytes => 84 * bytes.length
  | set is paths => 64 + 8 * is.length + 164 * paths.length
  | repeated f least most => (max least (most.getD 0) + 1) * (bound f + 48) + 128
  | capture f => bound f + 68
  | seq fs => boundSum fs
  | alt fs => boundSum fs + 128

def boundSum : List Form → Nat
  | [] => 32
  | f :: rest => bound f + 8 + boundSum rest

end

/-- Whether a form is a long list of words, which are looked up without an automaton. Some short
lists are as well, but they keep within the limit. -/
def isWordList : Form → Bool
  | alt fs => 3000 ≤ fs.length && fs.all fun f => f.bytes?.isSome
  | _ => false

def fits (f : Form) : Bool :=
  f.bound + 256 ≤ roomLimit || f.isWordList ||
    (!(f.draftAll false).tooLarge && !(f.draftAll true).tooLarge)

end Form

def fits (r : Regex) : Bool := r.form.fits

end RegexGolf.Regex
