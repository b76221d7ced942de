import RegexGolf.Alternation
import RegexGolf.Proofs.Matcher
import RegexGolf.Proofs.PlainPattern

/-!
Uniting patterns. The alternation of plain patterns is a plain pattern again, and it matches what
one of them matches. The one thing that can still speak against it is its size.
-/

namespace RegexGolf

namespace Regex

theorem matchesChars_alt (a b : Regex) (text : List Char) :
    (alt a b).matchesChars text = (a.matchesChars text || b.matchesChars text) := by
  rw [Bool.eq_iff_iff]
  simp only [matchesChars, advance, bne_iff_ne, ne_eq, Nat.or_eq_zero_iff, Bool.or_eq_true]
  exact Decidable.not_and_iff_not_or_not

theorem isMatch_anyOf (rs : List Regex) (some : rs ≠ []) (word : String) :
    (anyOf rs).isMatch word = rs.any (·.isMatch word) := by
  induction rs with
  | nil => exact absurd rfl some
  | cons r rest ih =>
    cases rest with
    | nil => simp [anyOf]
    | cons s rest =>
      rw [List.any_cons, ← ih (by simp)]
      exact matchesChars_alt r (anyOf (s :: rest)) word.toList

theorem textOf_append {as bs : List Branch} (ha : as ≠ []) (hb : bs ≠ []) :
    textOf (as ++ bs) = textOf as ++ '|' :: textOf bs := by
  induction as with
  | nil => exact absurd rfl ha
  | cons a as ih =>
    cases as with
    | nil =>
      have none : bs.map Branch.text ≠ [] := by simpa using hb
      simp [textOf, List.intercalate_cons_of_ne_nil none]
    | cons a' as =>
      have step : ∀ rest, textOf (a :: a' :: rest) = a.text ++ '|' :: textOf (a' :: rest) := by
        simp [textOf, List.intercalate_cons_cons]
      rw [List.cons_append, List.cons_append, step, step, ← List.cons_append, ih (by simp)]
      simp

def WrittenAs (pattern : String) (bs : List Branch) : Prop :=
  bs ≠ [] ∧ pattern.toList = textOf bs

/-- A pattern without groups, classes, escapes and counts, whose operators follow a sign. -/
def IsPlainPattern (pattern : String) : Prop := ∃ bs, WrittenAs pattern bs

theorem isPlainPattern_of_plain {pattern : String} (plain : pattern.toList.all isPlain) :
    IsPlainPattern pattern :=
  ⟨[⟨pattern.toList, none, by simpa using plain⟩], by simp, by simp [textOf, Branch.text]⟩

def HasRoom (pattern : String) : Prop :=
  ∀ r, parseChars pattern.toList = .ok r → r.fits

theorem WrittenAs.parse_eq {pattern : String} {bs : List Branch} (h : WrittenAs pattern bs)
    (room : HasRoom pattern) : parse pattern = .ok (anyOf (bs.map Branch.regex)) := by
  have read : parseChars pattern.toList = .ok (anyOf (bs.map Branch.regex)) := by
    rw [h.2, parseChars_textOf h.1]
  simp only [parse, read, room _ read, if_true]

theorem hasRoom_of_parse {pattern : String} {r : Regex} (read : parse pattern = .ok r) :
    HasRoom pattern := by
  intro s chars
  cases fits : s.fits with
  | true => rfl
  | false => simp [parse, chars, fits] at read

def isRoomy (text : List Char) : Bool :=
  match parseChars text with
  | .ok r => r.fits
  | .error _ => true

theorem hasRoom_iff {pattern : String} : HasRoom pattern ↔ isRoomy pattern.toList := by
  unfold HasRoom isRoomy
  cases parseChars pattern.toList with
  | ok r => simp
  | error e => simp

theorem WrittenAs.accepts_eq {pattern : String} {bs : List Branch} (h : WrittenAs pattern bs)
    (room : HasRoom pattern) (word : String) :
    accepts pattern word = bs.any (·.regex.isMatch word) := by
  rw [accepts_of_parse (h.parse_eq room), isMatch_anyOf _ (by simpa using h.1), List.any_map]
  rfl

end Regex

namespace Alternation

open Regex

theorem join_singleton (part : String) : join [part] = part := String.intercalate_singleton

theorem toList_join_cons (part : String) {parts : List String} (some : parts ≠ []) :
    (join (part :: parts)).toList = part.toList ++ '|' :: (join parts).toList := by
  rw [join, String.intercalate_cons_of_ne_nil some]
  simp [join]

theorem exists_writtenAs_join {parts : List String} (some : parts ≠ [])
    (plain : ∀ f ∈ parts, IsPlainPattern f ∧ HasRoom f) :
    ∃ bs, WrittenAs (join parts) bs ∧
      ∀ word, bs.any (·.regex.isMatch word) = parts.any (accepts · word) := by
  induction parts with
  | nil => exact absurd rfl some
  | cons f rest ih =>
    obtain ⟨⟨as, written⟩, room⟩ := plain f (.head _)
    have first : ∀ word, as.any (·.regex.isMatch word) = accepts f word := fun word =>
      (written.accepts_eq room word).symm
    by_cases only : rest = []
    · subst only
      refine ⟨as, by rwa [join_singleton], fun word => ?_⟩
      rw [first word, List.any_cons, List.any_nil, Bool.or_false]
    · obtain ⟨bs, others, meaning⟩ := ih only fun g listed => plain g (.tail _ listed)
      refine ⟨as ++ bs, ⟨by simp [written.1], ?_⟩, fun word => ?_⟩
      · rw [toList_join_cons f only, written.2, others.2, textOf_append written.1 others.1]
      · rw [List.any_append, first word, meaning word, List.any_cons]

/-- Any of the fragments can be united, each taken once and no more than a number of them: the
alternation can be read, and matches what one of its parts matches. -/
def Unites (limit : Nat) (fragments : List String) : Prop :=
  ∀ parts : List String, parts ≠ [] → parts.Nodup → parts.length ≤ limit →
    (∀ f ∈ parts, f ∈ fragments) →
    ∃ r, parse (join parts) = .ok r ∧ ∀ word, r.isMatch word = parts.any (accepts · word)

/-- As far as such alternations can be read, they match what one of their parts matches. -/
def Agrees (limit : Nat) (fragments : List String) : Prop :=
  ∀ parts : List String, parts ≠ [] → parts.Nodup → parts.length ≤ limit →
    (∀ f ∈ parts, f ∈ fragments) →
    ∀ r, parse (join parts) = .ok r → ∀ word, r.isMatch word = parts.any (accepts · word)

theorem Agrees.of_subset {limit : Nat} {few more : List String} (agrees : Agrees limit more)
    (subset : ∀ f ∈ few, f ∈ more) : Agrees limit few :=
  fun parts some once short among => agrees parts some once short fun f listed =>
    subset f (among f listed)

theorem Unites.of_subset {limit : Nat} {few more : List String} (unites : Unites limit more)
    (subset : ∀ f ∈ few, f ∈ more) : Unites limit few :=
  fun parts some once short among => unites parts some once short fun f listed =>
    subset f (among f listed)

theorem Unites.agrees {limit : Nat} {fragments : List String} (unites : Unites limit fragments) :
    Agrees limit fragments := by
  intro parts some once few among r read word
  obtain ⟨s, again, meaning⟩ := unites parts some once few among
  rw [read] at again
  cases again
  exact meaning word

/-- No alternation of the fragments, each taken once and no more than a number of them, is refused
for its size. -/
def LeavesRoom (limit : Nat) (fragments : List String) : Prop :=
  ∀ parts : List String, parts.Nodup → parts.length ≤ limit → (∀ f ∈ parts, f ∈ fragments) →
    HasRoom (join parts)

theorem LeavesRoom.of_subset {limit : Nat} {few more : List String} (room : LeavesRoom limit more)
    (subset : ∀ f ∈ few, f ∈ more) : LeavesRoom limit few :=
  fun parts once short among => room parts once short fun f listed => subset f (among f listed)

def choices (texts : List (List Char)) : Nat → List (List (List Char))
  | 0 => [[]]
  | n + 1 => [] :: texts.flatMap fun text => (choices texts n).map (text :: ·)

theorem mem_choices {texts parts : List (List Char)} {n : Nat} (few : parts.length ≤ n)
    (among : ∀ part ∈ parts, part ∈ texts) : parts ∈ choices texts n := by
  induction n generalizing parts with
  | zero => simpa [choices] using few
  | succ n ih =>
    cases parts with
    | nil => exact .head _
    | cons part parts =>
      have rest : parts ∈ choices texts n :=
        ih (by simpa using few) fun other listed => among other (.tail _ listed)
      exact .tail _ (List.mem_flatMap.2
        ⟨part, among part (.head _), List.mem_map.2 ⟨parts, rest, rfl⟩⟩)

theorem leavesRoom_of_choices {limit : Nat} {fragments : List String} (texts : List (List Char))
    (listed : ∀ f ∈ fragments, f.toList ∈ texts)
    (roomy : (choices texts limit).all fun parts => isRoomy (['|'].intercalate parts)) :
    LeavesRoom limit fragments := by
  intro parts _ few among
  have text : (join parts).toList = ['|'].intercalate (parts.map String.toList) := by
    simp [join]
  rw [hasRoom_iff, text]
  refine List.all_eq_true.1 roomy _ (mem_choices (by simpa using few) fun part member => ?_)
  obtain ⟨f, taken, rfl⟩ := List.mem_map.1 member
  exact listed f (among f taken)

theorem agrees_of_plain {limit : Nat} {fragments : List String}
    (plain : ∀ f ∈ fragments, IsPlainPattern f ∧ HasRoom f) : Agrees limit fragments := by
  intro parts some _ _ among r read word
  obtain ⟨bs, written, meaning⟩ :=
    exists_writtenAs_join some fun f listed => plain f (among f listed)
  rw [← accepts_of_parse read, written.accepts_eq (hasRoom_of_parse read), meaning]

theorem unites_of_plain {limit : Nat} {fragments : List String}
    (plain : ∀ f ∈ fragments, IsPlainPattern f ∧ HasRoom f) (room : LeavesRoom limit fragments) :
    Unites limit fragments := by
  intro parts some once few among
  obtain ⟨bs, written, -⟩ :=
    exists_writtenAs_join some fun f listed => plain f (among f listed)
  have read := written.parse_eq (room parts once few among)
  exact ⟨_, read, agrees_of_plain plain parts some once few among _ read⟩

end Alternation

end RegexGolf
