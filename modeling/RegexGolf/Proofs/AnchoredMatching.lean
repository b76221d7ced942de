import Mathlib.Data.List.Forall2
import RegexGolf.Fragment.Wildcard
import RegexGolf.Fragment.Window
import RegexGolf.Proofs.BranchMatching

/-!
Matching as occurrence. A word is put between its anchors; then signs match the word exactly if they
stand, sign by sign, for a stretch of the anchored text. This needs the anchors among the signs to
be where a stretch of such a text can have them, and words without anchors of their own.
-/

namespace RegexGolf.Fragment

open Regex

/-- Whether a sign stands for a character of an anchored text. -/
def Admits (sign c : Char) : Prop :=
  if sign = '.' then isAnchor c = false ∧ c ≠ '\n' else c = sign

def Bare (word : List Char) : Prop := ∀ c ∈ word, isAnchor c = false

/-- Signs whose anchors are where a stretch of an anchored text can have them. -/
structure Placed (signs : List Char) : Prop where
  front : '^' ∉ signs.tail
  once : signs.count '$' ≤ 1

def Begins (signs text : List Char) : Prop := ∃ v, v <+: text ∧ List.Forall₂ Admits signs v

/-- Whether signs stand for a stretch of a text. -/
def Occurs (signs text : List Char) : Prop := ∃ v, v <:+: text ∧ List.Forall₂ Admits signs v

theorem begins_nil (text : List Char) : Begins [] text := ⟨[], List.nil_prefix, .nil⟩

theorem not_begins_cons_nil (sign : Char) (signs : List Char) : ¬Begins (sign :: signs) [] := by
  rintro ⟨v, begins, along⟩
  rw [List.prefix_nil.1 begins] at along
  cases along

theorem begins_cons_cons {sign c : Char} {signs text : List Char} :
    Begins (sign :: signs) (c :: text) ↔ Admits sign c ∧ Begins signs text := by
  constructor
  · rintro ⟨_, begins, along⟩
    obtain ⟨d, v, admits, rest, rfl⟩ := List.forall₂_cons_left_iff.1 along
    obtain ⟨rfl, behind⟩ := List.cons_prefix_cons.1 begins
    exact ⟨admits, v, behind, rest⟩
  · rintro ⟨admits, v, begins, rest⟩
    exact ⟨c :: v, List.cons_prefix_cons.2 ⟨rfl, begins⟩, .cons admits rest⟩

theorem occurs_iff {signs text : List Char} :
    Occurs signs text ↔ ∃ before rest, text = before ++ rest ∧ Begins signs rest := by
  constructor
  · rintro ⟨v, ⟨before, after, eq⟩, along⟩
    have split : text = before ++ (v ++ after) := by rw [← eq, List.append_assoc]
    exact ⟨before, v ++ after, split, v, List.prefix_append v after, along⟩
  · rintro ⟨before, rest, rfl, v, ⟨after, rfl⟩, along⟩
    exact ⟨v, ⟨before, after, List.append_assoc _ _ _⟩, along⟩

theorem takes_iff_admits {sign c : Char} (usual : isAnchor c = false) :
    takes sign c ↔ Admits sign c := by
  unfold takes Admits
  split
  · simp [usual]
  · simp

theorem eq_of_admits_anchor {sign c : Char} (anchor : isAnchor c) (admits : Admits sign c) :
    sign = c := by
  unfold Admits at admits
  split at admits
  · rw [admits.1] at anchor
    cases anchor
  · exact admits.symm

theorem follows_nil_iff {signs : List Char} {start : Bool} (front : '^' ∉ signs)
    (inside : '$' ∉ signs) : follows signs start [] ↔ signs = [] := by
  cases signs with
  | nil => simp [follows]
  | cons sign signs =>
    simp only [List.mem_cons, not_or] at front inside
    simp only [follows, if_neg (Ne.symm front.1), if_neg (Ne.symm inside.1)]
    simp

theorem follows_iff {signs rest : List Char} {start : Bool} (front : '^' ∉ signs)
    (once : signs.count '$' ≤ 1) (bare : Bare rest) :
    follows signs start rest ↔ Begins signs (rest ++ ['$']) := by
  induction signs generalizing start rest with
  | nil => simp [follows, begins_nil]
  | cons sign signs ih =>
    simp only [List.mem_cons, not_or] at front
    simp only [follows, if_neg (Ne.symm front.1)]
    by_cases closes : sign = '$'
    · subst closes
      have inside : '$' ∉ signs := by
        rw [List.count_cons_self] at once
        exact List.count_eq_zero.1 (by omega)
      cases rest with
      | nil =>
        rw [List.nil_append, begins_cons_cons]
        have shut : Begins signs [] ↔ signs = [] := by
          cases signs with
          | nil => simp [begins_nil]
          | cons d signs => simp [not_begins_cons_nil]
        simp [follows_nil_iff front.2 inside, shut, Admits]
      | cons c rest =>
        have usual : c ≠ '$' := by
          rintro rfl
          exact absurd (bare _ (.head _)) (by decide)
        rw [List.cons_append, begins_cons_cons]
        simp [Admits, usual]
    · have fewer : signs.count '$' ≤ 1 := by rwa [List.count_cons_of_ne closes] at once
      simp only [if_neg closes]
      cases rest with
      | nil =>
        rw [List.nil_append, begins_cons_cons]
        have apart : ¬Admits sign '$' := fun admits =>
          closes (eq_of_admits_anchor (by decide) admits)
        simp [apart]
      | cons c rest =>
        have others : Bare rest := fun d listed => bare d (.tail _ listed)
        rw [List.cons_append, begins_cons_cons, Bool.and_eq_true,
          takes_iff_admits (bare c (.head _)), ih front.2 fewer others]

theorem exists_append_of_begins {sign : Char} {signs word before rest : List Char}
    (eq : word ++ ['$'] = before ++ rest) (begins : Begins (sign :: signs) rest) :
    ∃ behind, rest = behind ++ ['$'] ∧ word = before ++ behind := by
  have nonempty : rest ≠ [] := by
    rintro rfl
    exact not_begins_cons_nil sign signs begins
  have whole : rest.dropLast ++ [rest.getLast nonempty] = rest :=
    List.dropLast_append_getLast nonempty
  rw [← whole, ← List.append_assoc] at eq
  obtain ⟨front, last⟩ := List.append_inj' eq rfl
  exact ⟨rest.dropLast, by rw [last, whole], front⟩

theorem occurs_caret_iff {signs word : List Char} (bare : Bare word) :
    Occurs ('^' :: signs) (anchored word) ↔ Begins signs (word ++ ['$']) := by
  rw [occurs_iff]
  constructor
  · rintro ⟨before, rest, eq, begins⟩
    cases before with
    | nil =>
      rw [List.nil_append] at eq
      rw [← eq] at begins
      exact (begins_cons_cons.1 begins).2
    | cons d before =>
      rw [anchored, List.cons_append, List.cons_append, List.cons.injEq] at eq
      obtain ⟨behind, rfl, rfl⟩ := exists_append_of_begins eq.2 begins
      cases behind with
      | nil => exact absurd (begins_cons_cons.1 begins).1 (by simp [Admits])
      | cons c behind =>
        have anchor : c = '^' := by simpa [Admits] using (begins_cons_cons.1 begins).1
        have usual := bare c (by simp)
        rw [anchor] at usual
        exact absurd usual (by decide)
  · intro begins
    exact ⟨[], anchored word, rfl, begins_cons_cons.2 ⟨by simp [Admits], begins⟩⟩

theorem occurs_cons_iff {sign : Char} {signs word : List Char} (other : sign ≠ '^') :
    Occurs (sign :: signs) (anchored word) ↔
      ∃ before rest, word = before ++ rest ∧ Begins (sign :: signs) (rest ++ ['$']) := by
  rw [occurs_iff]
  constructor
  · rintro ⟨before, rest, eq, begins⟩
    cases before with
    | nil =>
      rw [List.nil_append] at eq
      rw [← eq] at begins
      exact absurd (eq_of_admits_anchor (by decide) (begins_cons_cons.1 begins).1) other
    | cons d before =>
      rw [anchored, List.cons_append, List.cons_append, List.cons.injEq] at eq
      obtain ⟨behind, rfl, rfl⟩ := exists_append_of_begins eq.2 begins
      exact ⟨before, behind, rfl, begins⟩
  · rintro ⟨before, rest, rfl, begins⟩
    exact ⟨'^' :: before, rest ++ ['$'], by simp [anchored], begins⟩

/-- Signs can be read somewhere in a word if they stand for a stretch of its anchored text. -/
theorem exists_follows_iff {signs word : List Char} (placed : Placed signs) (bare : Bare word) :
    (∃ before rest, word = before ++ rest ∧ follows signs before.isEmpty rest) ↔
      Occurs signs (anchored word) := by
  have behind : ∀ {before rest}, word = before ++ rest → Bare rest := by
    rintro before rest rfl c listed
    exact bare c (List.mem_append_right _ listed)
  cases signs with
  | nil =>
    have somewhere : Occurs [] (anchored word) := ⟨[], List.nil_infix, .nil⟩
    simp only [follows, somewhere, and_true, iff_true]
    exact ⟨[], word, rfl⟩
  | cons sign signs =>
    have front : '^' ∉ signs := placed.front
    by_cases opens : sign = '^'
    · subst opens
      have once : signs.count '$' ≤ 1 := by simpa using placed.once
      rw [occurs_caret_iff bare, ← follows_iff front once bare]
      simp only [follows, if_true, Bool.and_eq_true, List.isEmpty_iff]
      constructor
      · rintro ⟨before, rest, rfl, rfl, reads⟩
        exact reads
      · exact fun reads => ⟨[], word, rfl, rfl, reads⟩
    · have absent : '^' ∉ sign :: signs := by simpa [Ne.symm opens] using front
      rw [occurs_cons_iff opens]
      constructor
      · rintro ⟨before, rest, eq, reads⟩
        exact ⟨before, rest, eq, (follows_iff absent placed.once (behind eq)).1 reads⟩
      · rintro ⟨before, rest, eq, begins⟩
        exact ⟨before, rest, eq, (follows_iff absent placed.once (behind eq)).2 begins⟩

end RegexGolf.Fragment
