import RegexGolf.Proofs.PlainPattern
import RegexGolf.Unicode.CaseMap

/-!
Upper and lower case of texts. Neither makes a sign without case, such as those of the pattern
language, out of anything else, and neither makes nothing out of something; on ASCII texts each
character goes to one character.
-/

namespace RegexGolf.Unicode

open Regex

/-- The signs that mean something only together with others, alternation included. -/
def isSpecial (c : Char) : Bool := isMeta c || c == '|'

/-- The ASCII signs that have no case. Zero is left out, which a code point that is no character
is read as. -/
def isCaseless (c : Char) : Bool := 0 < c.toNat && c.toNat < 128 && !c.isAlpha

def caselessCodes : List Nat := (List.range 128).filter fun n => isCaseless (Char.ofNat n)

theorem isCaseless_of_isSpecial {c : Char} (special : isSpecial c) : isCaseless c := by
  simp only [isSpecial, isMeta, Bool.or_eq_true, List.contains_iff_mem, beq_iff_eq, List.mem_cons,
    List.not_mem_nil, or_false] at special
  rcases special with (rfl | rfl | rfl | rfl | rfl | rfl | rfl | rfl) | rfl <;> decide

theorem mem_caselessCodes_of_ofNat {n : Nat} (caseless : isCaseless (Char.ofNat n)) :
    n ∈ caselessCodes := by
  by_cases valid : n.isValidChar
  · have code : (Char.ofNat n).toNat = n := by
      rw [Char.ofNat, dif_pos valid]
      rfl
    have below : n < 128 := by
      simp only [isCaseless, code, Bool.and_eq_true, decide_eq_true_eq] at caseless
      exact caseless.1.2
    exact List.mem_filter.2 ⟨List.mem_range.2 below, caseless⟩
  · rw [Char.ofNat, dif_neg valid] at caseless
    exact absurd caseless (by decide)

/-- Neither the runs nor the spellings of a table reach a sign without case, and every spelling has
a letter. -/
def sparesCaseless (shifts : List Shift) (spellings : List (Nat × List Nat)) : Bool :=
  (shifts.all fun s => caselessCodes.all fun n => n < s.target || s.target + (s.last - s.first) < n)
    && spellings.all fun e => !e.2.isEmpty && e.2.all fun n => !caselessCodes.contains n

theorem upper_sparesCaseless : sparesCaseless upperShifts upperSpellings := by decide +kernel

theorem lower_sparesCaseless : sparesCaseless lowerShifts lowerSpellings := by decide +kernel

section

variable {shifts : List Shift} {spellings : List (Nat × List Nat)} {n : Nat}

theorem mapped_ne_nil (spares : sparesCaseless shifts spellings) :
    mapped shifts spellings n ≠ [] := by
  rw [sparesCaseless, Bool.and_eq_true] at spares
  unfold mapped
  split
  · simp
  · cases found : spellings.lookup n with
    | none => simp
    | some spelling =>
      obtain ⟨before, after, listed, -⟩ := List.lookup_eq_some_iff.1 found
      have entry := List.all_eq_true.1 spares.2 (n, spelling) (by simp [listed])
      simp only [Bool.and_eq_true, Bool.not_eq_true', List.isEmpty_eq_false_iff] at entry
      exact entry.1

theorem not_caseless_of_mem_mapped (spares : sparesCaseless shifts spellings) (high : 128 ≤ n)
    {m : Nat} (listed : m ∈ mapped shifts spellings n) : m ∉ caselessCodes := by
  rw [sparesCaseless, Bool.and_eq_true] at spares
  unfold mapped at listed
  split at listed
  · rename_i moved found
    rw [List.mem_singleton] at listed
    subst listed
    obtain ⟨s, among, image⟩ := List.exists_of_findSome?_eq_some found
    intro caseless
    have apart := List.all_eq_true.1 (List.all_eq_true.1 spares.1 s among) m caseless
    simp only [Bool.or_eq_true, decide_eq_true_eq] at apart
    unfold Shift.image? at image
    split at image
    · cases image
      omega
    · cases image
  · cases found : spellings.lookup n with
    | none =>
      rw [found, Option.getD_none, List.mem_singleton] at listed
      subst listed
      intro caseless
      have below := List.mem_range.1 (List.mem_filter.1 caseless).1
      omega
    | some spelling =>
      rw [found, Option.getD_some] at listed
      obtain ⟨before, after, among, -⟩ := List.lookup_eq_some_iff.1 found
      have entry := List.all_eq_true.1 spares.2 (n, spelling) (by simp [among])
      rw [Bool.and_eq_true] at entry
      have apart := List.all_eq_true.1 entry.2 m listed
      simpa using apart

end

theorem eq_ofNat_of_toNat_lt {c : Char} (ascii : c.toNat < 128) :
    ∃ i : Fin 128, c = Char.ofNat i :=
  ⟨⟨c.toNat, ascii⟩, (Char.ofNat_toNat c).symm⟩

theorem toUpper_of_caseless (i : Fin 128) (caseless : isCaseless (Char.ofNat i).toUpper) :
    (Char.ofNat i).toUpper = Char.ofNat i := by
  revert i
  decide

theorem toLower_of_caseless (i : Fin 128) (caseless : isCaseless (Char.ofNat i).toLower) :
    (Char.ofNat i).toLower = Char.ofNat i := by
  revert i
  decide

theorem eq_of_mem_upperChar {c d : Char} (listed : d ∈ upperChar c) (caseless : isCaseless d) :
    d = c := by
  unfold upperChar at listed
  split at listed
  · rename_i ascii
    obtain ⟨i, rfl⟩ := eq_ofNat_of_toNat_lt ascii
    rw [List.mem_singleton] at listed
    subst listed
    exact toUpper_of_caseless i caseless
  · rename_i high
    obtain ⟨n, member, rfl⟩ := List.mem_map.1 listed
    exact absurd (mem_caselessCodes_of_ofNat caseless)
      (not_caseless_of_mem_mapped upper_sparesCaseless (by omega) member)

theorem eq_of_mem_lowerChar {c d : Char} (listed : d ∈ lowerChar c) (caseless : isCaseless d) :
    d = c := by
  unfold lowerChar at listed
  split at listed
  · rename_i ascii
    obtain ⟨i, rfl⟩ := eq_ofNat_of_toNat_lt ascii
    rw [List.mem_singleton] at listed
    subst listed
    exact toLower_of_caseless i caseless
  · rename_i high
    obtain ⟨n, member, rfl⟩ := List.mem_map.1 listed
    exact absurd (mem_caselessCodes_of_ofNat caseless)
      (not_caseless_of_mem_mapped lower_sparesCaseless (by omega) member)

theorem upperChar_ne_nil (c : Char) : upperChar c ≠ [] := by
  unfold upperChar
  split
  · simp
  · simpa using mapped_ne_nil upper_sparesCaseless

theorem lowerChar_ne_nil (c : Char) : lowerChar c ≠ [] := by
  unfold lowerChar
  split
  · simp
  · simpa using mapped_ne_nil lower_sparesCaseless

theorem mem_of_mem_upperChars {text : List Char} {d : Char} (listed : d ∈ upperChars text)
    (caseless : isCaseless d) : d ∈ text := by
  obtain ⟨c, member, place⟩ := List.mem_flatMap.1 listed
  rwa [eq_of_mem_upperChar place caseless]

theorem mem_of_mem_lowerFrom {before text : List Char} {d : Char}
    (listed : d ∈ lowerFrom before text) (caseless : isCaseless d) : d ∈ text := by
  induction text generalizing before with
  | nil => simp [lowerFrom] at listed
  | cons c rest ih =>
    rw [lowerFrom, List.mem_append] at listed
    rcases listed with now | later
    · split at now
      · rw [List.mem_singleton] at now
        subst now
        unfold lowerSigma at caseless
        split at caseless <;> exact absurd caseless (by decide)
      · rw [eq_of_mem_lowerChar now caseless]
        exact .head _
    · exact .tail _ (ih later)

theorem upperChars_ne_nil {text : List Char} (some : text ≠ []) : upperChars text ≠ [] := by
  cases text with
  | nil => exact absurd rfl some
  | cons c rest => simp [upperChars, upperChar_ne_nil]

theorem lowerChars_ne_nil {text : List Char} (some : text ≠ []) : lowerChars text ≠ [] := by
  cases text with
  | nil => exact absurd rfl some
  | cons c rest =>
    rw [lowerChars, lowerFrom]
    split <;> simp [lowerChar_ne_nil]

theorem upperChars_eq_map {text : List Char} (ascii : ∀ c ∈ text, c.toNat < 128) :
    upperChars text = text.map Char.toUpper := by
  induction text with
  | nil => rfl
  | cons c rest ih =>
    have others := ih fun d listed => ascii d (.tail _ listed)
    rw [upperChars, List.flatMap_cons, ← upperChars, others, upperChar, if_pos (ascii c (.head _))]
    rfl

theorem lowerFrom_eq_map (before : List Char) {text : List Char}
    (ascii : ∀ c ∈ text, c.toNat < 128) : lowerFrom before text = text.map Char.toLower := by
  induction text generalizing before with
  | nil => rfl
  | cons c rest ih =>
    have others := ih (c :: before) fun d listed => ascii d (.tail _ listed)
    have letter : c ≠ 'Σ' := by
      rintro rfl
      exact absurd (ascii _ (.head _)) (by decide)
    rw [lowerFrom, others, if_neg letter, lowerChar, if_pos (ascii c (.head _))]
    rfl

end RegexGolf.Unicode
