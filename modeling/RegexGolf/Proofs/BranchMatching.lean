import RegexGolf.Proofs.Union
import RegexGolf.Regex.Search

/-!
What a plain branch matches. Its signs are read one after the other from some place of the text on:
an anchor asks where the place is, any other sign takes the next character. An operator that allows
none at the end of a branch makes its sign superfluous, one that does not is superfluous itself.
-/

namespace RegexGolf.Regex

def takes (sign c : Char) : Bool := if sign = '.' then c != '\n' else c == sign

/-- Whether signs can be read from a place on, given whether the text starts there and what stands
behind it. -/
def follows : List Char → Bool → List Char → Bool
  | [], _, _ => true
  | sign :: signs, start, rest =>
    if sign = '^' then start && follows signs start rest
    else if sign = '$' then rest.isEmpty && follows signs start rest
    else
      match rest with
      | [] => false
      | c :: rest => takes sign c && follows signs false rest

theorem any_textStart_gapsFrom (before : Option Char) (text : List Char) (i : Nat) :
    (gapsFrom before text)[i]?.any Look.textStart.holds = (i == 0 && before.isNone) := by
  induction text generalizing before i with
  | nil => cases i <;> simp [gapsFrom, Look.holds]
  | cons c rest ih =>
    cases i with
    | zero => simp [gapsFrom, Look.holds]
    | succ i => simp [gapsFrom, ih]

theorem any_textEnd_gapsFrom (before : Option Char) (text : List Char) (i : Nat) :
    (gapsFrom before text)[i]?.any Look.textEnd.holds = (i == text.length) := by
  induction text generalizing before i with
  | nil => cases i <;> simp [gapsFrom, Look.holds]
  | cons c rest ih =>
    cases i with
    | zero => simp [gapsFrom, Look.holds]
    | succ i => simp [gapsFrom, ih]

variable {text : List Char} {s : Nat}

theorem testBit_advance_start (i : Nat) :
    (advance text (.look .textStart) s).testBit i = (s.testBit i && i == 0) := by
  rw [advance, Nat.testBit_and, testBit_marks, gaps, any_textStart_gapsFrom]
  simp

theorem testBit_advance_end (i : Nat) :
    (advance text (.look .textEnd) s).testBit i = (s.testBit i && i == text.length) := by
  rw [advance, Nat.testBit_and, testBit_marks, gaps, any_textEnd_gapsFrom]

theorem testBit_advance_char (set : CharSet) (j : Nat) :
    (advance text (.char set) s).testBit j ↔
      ∃ i, j = i + 1 ∧ s.testBit i ∧ ∃ c, text[i]? = some c ∧ set.contains c := by
  rw [advance, Nat.testBit_shiftLeft, Nat.testBit_and, testBit_marks]
  cases j with
  | zero => simp
  | succ j => simp [Option.any_eq_true]

theorem ofSign_of_taking {sign : Char} (hs : sign ≠ '^') (he : sign ≠ '$') :
    ∃ set, ofSign sign = .char set ∧ ∀ c, set.contains c = takes sign c := by
  unfold ofSign
  split
  · refine ⟨_, rfl, fun c => ?_⟩
    simp only [Flags.dot, Bool.false_eq_true, if_false, CharSet.contains, CharSet.contains_single,
      takes, if_true]
    rfl
  · exact absurd rfl hs
  · exact absurd rfl he
  · rename_i point _ _
    refine ⟨_, rfl, fun c => ?_⟩
    rw [CharSet.contains_single, takes, if_neg point]
    rfl

theorem advance_concat_cons (r : Regex) (rest : List Regex) (s : Nat) :
    advance text (concat (r :: rest)) s = advance text (concat rest) (advance text r s) := by
  cases rest with
  | nil => rw [concat, concat, advance]
  | cons q rest => rfl

theorem advance_concat_append (as bs : List Regex) (s : Nat) :
    advance text (concat (as ++ bs)) s =
      advance text (concat bs) (advance text (concat as) s) := by
  induction as generalizing s with
  | nil => rw [List.nil_append, concat, advance]
  | cons a as ih => rw [List.cons_append, advance_concat_cons, advance_concat_cons, ih]

theorem ne_zero_iff_exists_testBit : s ≠ 0 ↔ ∃ i, s.testBit i := by
  constructor
  · exact Nat.exists_testBit_of_ne_zero
  · rintro ⟨i, set⟩ rfl
    simp at set

theorem testBit_advance_sign (sign : Char) (within : ∀ i, s.testBit i → i ≤ text.length) (j : Nat) :
    (advance text (ofSign sign) s).testBit j ↔
      if sign = '^' then s.testBit j ∧ j = 0
      else if sign = '$' then s.testBit j ∧ text.drop j = []
      else ∃ i, j = i + 1 ∧ s.testBit i ∧ ∃ c, text[i]? = some c ∧ takes sign c := by
  by_cases hs : sign = '^'
  · subst hs
    simp [ofSign, testBit_advance_start]
  · by_cases he : sign = '$'
    · subst he
      simp only [ofSign, testBit_advance_end, Bool.and_eq_true, beq_iff_eq, List.drop_eq_nil_iff,
        Char.reduceEq, if_false, if_true]
      constructor
      · rintro ⟨set, rfl⟩
        exact ⟨set, Nat.le_refl _⟩
      · rintro ⟨set, le⟩
        exact ⟨set, Nat.le_antisymm (within j set) le⟩
    · obtain ⟨set, eq, contains⟩ := ofSign_of_taking hs he
      simp only [eq, testBit_advance_char, contains, hs, he, if_false]

theorem le_length_of_testBit_advance (sign : Char) (within : ∀ i, s.testBit i → i ≤ text.length)
    (j : Nat) (set : (advance text (ofSign sign) s).testBit j) : j ≤ text.length := by
  rw [testBit_advance_sign sign within] at set
  split at set
  · exact within j set.1
  · split at set
    · exact within j set.1
    · obtain ⟨i, rfl, -, c, place, -⟩ := set
      exact (List.getElem?_eq_some_iff.1 place).1

theorem advance_signs_ne_zero_iff (signs : List Char)
    (within : ∀ i, s.testBit i → i ≤ text.length) :
    advance text (concat (signs.map ofSign)) s ≠ 0 ↔
      ∃ i, s.testBit i ∧ follows signs (i == 0) (text.drop i) := by
  induction signs generalizing s with
  | nil => simp [concat, advance, follows, ne_zero_iff_exists_testBit]
  | cons sign signs ih =>
    rw [List.map_cons, advance_concat_cons, ih (le_length_of_testBit_advance sign within)]
    simp only [testBit_advance_sign sign within, follows]
    by_cases hs : sign = '^'
    · simp only [hs, if_true, Bool.and_eq_true, beq_iff_eq, and_assoc]
    · by_cases he : sign = '$'
      · subst he
        simp only [Char.reduceEq, if_false, if_true, Bool.and_eq_true, List.isEmpty_iff, and_assoc]
      · simp only [hs, he, if_false]
        constructor
        · rintro ⟨_, ⟨i, rfl, set, c, place, taken⟩, more⟩
          obtain ⟨inside, rfl⟩ := List.getElem?_eq_some_iff.1 place
          refine ⟨i, set, ?_⟩
          rw [List.drop_eq_getElem_cons inside]
          simpa [taken] using more
        · rintro ⟨i, set, reads⟩
          cases behind : text.drop i with
          | nil => simp [behind] at reads
          | cons c rest =>
            have place : text[i]? = some c := by
              rw [← List.head?_drop, behind, List.head?_cons]
            have onward : text.drop (i + 1) = rest := by
              rw [← List.tail_drop, behind, List.tail_cons]
            simp only [behind, Bool.and_eq_true] at reads
            refine ⟨i + 1, ⟨i, rfl, set, c, place, reads.1⟩, ?_⟩
            rw [onward]
            simpa using reads.2

theorem advance_sign_zero (sign : Char) : advance text (ofSign sign) 0 = 0 := by
  refine Nat.eq_of_testBit_eq fun j => ?_
  rw [Nat.zero_testBit, Bool.eq_false_iff, ne_eq, testBit_advance_sign sign (by simp)]
  simp

theorem reach_eq_zero_iff {move : Nat → Nat} {k moved reached : Nat} :
    reach move k moved reached = 0 ↔ reached = 0 := by
  induction k generalizing moved reached with
  | zero => rfl
  | succ k ih =>
    rw [reach]
    split
    · rfl
    · rename_i fresh
      rw [ih, Nat.or_eq_zero_iff]
      constructor
      · exact fun none => none.1
      · rintro rfl
        exact absurd (by simp) fresh

/-- The signs of a branch without which it matches nothing. -/
def Branch.needed (b : Branch) : List Char :=
  match b.last with
  | some (sign, .atLeastOnce) => b.signs ++ [sign]
  | _ => b.signs

theorem Branch.advance_eq_zero_iff (b : Branch) :
    advance text b.regex s = 0 ↔ advance text (concat (b.needed.map ofSign)) s = 0 := by
  rw [Branch.regex, Branch.parts, advance_concat_append]
  generalize reached : advance text (concat (b.signs.map ofSign)) s = t
  cases last : b.last with
  | none => simp [needed, last, reached, concat, advance]
  | some repeated =>
    obtain ⟨sign, times⟩ := repeated
    cases times with
    | atLeastOnce =>
      simp only [needed, last, List.map_append, advance_concat_append, reached, Option.toList_some,
        List.map_singleton, Times.of, concat, advance, RegexGolf.Regex.times, reach_eq_zero_iff]
    | anyNumber =>
      simp only [needed, last, reached, Option.toList_some, List.map_singleton, Times.of, concat,
        advance, reach_eq_zero_iff]
    | atMostOnce =>
      simp only [needed, last, reached, Option.toList_some, List.map_singleton, Times.of, concat,
        advance, RegexGolf.Regex.times, upTo]
      split
      · rfl
      · rw [Nat.or_eq_zero_iff]
        constructor
        · exact fun none => none.1
        · rintro rfl
          exact ⟨rfl, advance_sign_zero sign⟩

theorem testBit_everywhere (text : List Char) (i : Nat) :
    (everywhere text).testBit i = decide (i ≤ text.length) := by
  rw [everywhere, Nat.one_shiftLeft, Nat.testBit_two_pow_sub_one, decide_eq_decide]
  exact Nat.lt_succ_iff

/-- A branch matches a word if its signs can be read from some place of the word on. -/
theorem Branch.isMatch_iff (b : Branch) (word : String) :
    b.regex.isMatch word ↔
      ∃ before rest, word.toList = before ++ rest ∧ follows b.needed before.isEmpty rest := by
  have search := advance_signs_ne_zero_iff (s := everywhere word.toList) b.needed
    fun i set => by simpa [testBit_everywhere] using set
  rw [isMatch, matchesChars, bne_iff_ne, ne_eq, b.advance_eq_zero_iff, ← ne_eq, search]
  simp only [testBit_everywhere, decide_eq_true_eq]
  constructor
  · rintro ⟨i, inside, reads⟩
    refine ⟨word.toList.take i, word.toList.drop i, (List.take_append_drop i _).symm, ?_⟩
    have start : (word.toList.take i).isEmpty = (i == 0) := by
      rw [Bool.eq_iff_iff, List.isEmpty_iff_length_eq_zero, List.length_take, beq_iff_eq]
      omega
    rwa [start]
  · rintro ⟨before, rest, eq, reads⟩
    refine ⟨before.length, by simp [eq], ?_⟩
    have start : (before.length == 0) = before.isEmpty := by
      rw [Bool.eq_iff_iff, List.isEmpty_iff_length_eq_zero, beq_iff_eq]
    rwa [eq, List.drop_left, start]

end RegexGolf.Regex
