/-!
The choices that a run leaves to its caller.
-/

namespace RegexGolf

/-- How fragments are cut out of a word. -/
structure Cutting where
  /-- The most characters of a fragment, anchors included. -/
  window : Nat := 4
  /-- Also cut the upper-case and the lower-case form. -/
  caseVariants : Bool := true
  /-- Also let each form be followed by a repetition operator. -/
  quantifiers : Bool := true
  deriving DecidableEq, Repr

def Cutting.plain : Cutting := ⟨4, false, false⟩

inductive Strategy where
  /-- The words that are hardest to match choose first. -/
  | weighted
  /-- By the number of words they match. -/
  | simple
  deriving DecidableEq, Repr

def Strategy.label : Strategy → String
  | weighted => "weighted"
  | simple => "simple"

structure Options where
  strategy : Strategy := .weighted
  cutting : Cutting := {}
  deriving DecidableEq, Repr

end RegexGolf
