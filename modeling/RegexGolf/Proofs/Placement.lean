import RegexGolf.Proofs.AnchoredMatching
import RegexGolf.Proofs.FragmentSpace

/-!
Where the anchors of a fragment stand. A stretch of an anchored word has them at its ends; neither
points nor a change of case that keeps the length moves them or makes new ones. So matching a
fragment is occurring in the anchored word.
-/

namespace RegexGolf.Fragment

open Regex

theorem Placed.of_stretch {word v : List Char} (bare : Bare word) (inside : v <:+: anchored word) :
    Placed v where
  front := by
    have behind : '^' ∉ word ++ ['$'] := by
      intro listed
      rcases List.mem_append.1 listed with listed | listed
      · exact absurd (bare _ listed) (by decide)
      · simp at listed
    intro listed
    rcases List.infix_cons_iff.1 inside with begins | inside
    · rcases List.prefix_cons_iff.1 begins with rfl | ⟨u, rfl, onward⟩
      · simp at listed
      · exact behind (onward.mem listed)
    · exact behind (inside.mem (List.mem_of_mem_tail listed))
  once := by
    have none : word.count '$' = 0 := by
      refine List.count_eq_zero.2 fun listed => ?_
      exact absurd (bare _ listed) (by decide)
    have total : (anchored word).count '$' = 1 := by simp [anchored, none]
    exact total ▸ inside.sublist.count_le '$'

theorem Placed.dropLast {signs : List Char} (h : Placed signs) : Placed signs.dropLast where
  front listed := by
    rw [List.tail_dropLast] at listed
    exact h.front (List.mem_of_mem_dropLast listed)
  once := Nat.le_trans (signs.dropLast_sublist.count_le '$') h.once

theorem Placed.point {signs : List Char} (h : Placed signs) : Placed (signs ++ ['.']) where
  front listed := by
    cases signs with
    | nil => simp at listed
    | cons c rest =>
      rw [List.cons_append, List.tail_cons, List.mem_append, List.mem_singleton] at listed
      rcases listed with listed | listed
      · exact h.front listed
      · exact absurd listed (by decide)
  once := by simpa using h.once

/-- Anchors stay, and nothing else becomes one. -/
def Keeps (c d : Char) : Prop := if isAnchor c then d = c else isAnchor d = false

theorem keeps_self (c : Char) : Keeps c c := by
  unfold Keeps
  split
  · rfl
  · rename_i usual
    simpa using usual

theorem Keeps.widen {c d e : Char} (h : Keeps c d) (widens : Widens d e) : Keeps c e := by
  rcases widens with rfl | ⟨rfl, usual⟩
  · exact h
  · unfold Keeps at h ⊢
    split
    · rename_i anchor
      rw [if_pos anchor] at h
      rw [h, anchor] at usual
      cases usual
    · rfl

theorem forall₂_keeps_widen {v form signs : List Char} (kept : List.Forall₂ Keeps v form)
    (widened : List.Forall₂ Widens form signs) : List.Forall₂ Keeps v signs := by
  induction kept generalizing signs with
  | nil =>
    cases widened
    exact .nil
  | cons keeps _ ih =>
    cases widened with
    | cons widens rest => exact .cons (keeps.widen widens) (ih rest)

theorem Keeps.eq_of_anchor {c d : Char} (h : Keeps c d) (anchor : isAnchor d) : c = d := by
  unfold Keeps at h
  split at h
  · exact h.symm
  · rw [h] at anchor
    cases anchor

theorem mem_of_keeps {v signs : List Char} (kept : List.Forall₂ Keeps v signs) {d : Char}
    (anchor : isAnchor d) (listed : d ∈ signs) : d ∈ v := by
  induction kept with
  | nil => simp at listed
  | cons keeps _ ih =>
    rcases List.mem_cons.1 listed with rfl | listed
    · rw [keeps.eq_of_anchor anchor]
      exact .head _
    · exact .tail _ (ih listed)

theorem count_le_of_keeps {v signs : List Char} (kept : List.Forall₂ Keeps v signs) {d : Char}
    (anchor : isAnchor d) : signs.count d ≤ v.count d := by
  induction kept with
  | nil => simp
  | @cons c e v signs keeps _ ih =>
    by_cases same : e = d
    · subst same
      rw [keeps.eq_of_anchor anchor, List.count_cons_self, List.count_cons_self]
      exact Nat.succ_le_succ ih
    · rw [List.count_cons_of_ne same]
      exact Nat.le_trans ih (List.count_le_count_cons)

theorem Placed.of_keeps {v signs : List Char} (h : Placed v) (kept : List.Forall₂ Keeps v signs) :
    Placed signs where
  front listed := by
    cases kept with
    | nil => simp at listed
    | cons _ rest => exact h.front (mem_of_keeps rest (by decide) listed)
  once := Nat.le_trans (count_le_of_keeps kept (by decide)) h.once

theorem keeps_toUpper {c : Char} (ascii : c.toNat < 128) : Keeps c c.toUpper := by
  obtain ⟨i, rfl⟩ := Unicode.eq_ofNat_of_toNat_lt ascii
  revert i
  unfold Keeps
  decide

theorem keeps_toLower {c : Char} (ascii : c.toNat < 128) : Keeps c c.toLower := by
  obtain ⟨i, rfl⟩ := Unicode.eq_ofNat_of_toNat_lt ascii
  revert i
  unfold Keeps
  decide

theorem forall₂_keeps_of_mem_forms {caseVariants : Bool} {window form : List Char}
    (taken : form ∈ forms caseVariants window)
    (fixed : caseVariants = false ∨ ∀ d ∈ window, d.toNat < 128) :
    List.Forall₂ Keeps window form := by
  have unchanged : List.Forall₂ Keeps window window :=
    List.forall₂_same.2 fun c _ => keeps_self c
  rcases fixed with rfl | ascii
  · rwa [List.mem_singleton.1 taken]
  · unfold forms at taken
    split at taken
    · simp only [List.mem_cons, List.not_mem_nil, or_false] at taken
      rcases taken with rfl | rfl | rfl
      · exact unchanged
      · rw [Unicode.upperChars_eq_map ascii, List.forall₂_map_right_iff, List.forall₂_same]
        exact fun c listed => keeps_toUpper (ascii c listed)
      · rw [Unicode.lowerChars, Unicode.lowerFrom_eq_map [] ascii, List.forall₂_map_right_iff,
          List.forall₂_same]
        exact fun c listed => keeps_toLower (ascii c listed)
    · rwa [List.mem_singleton.1 taken]

/-- A fragment of one branch matches a word if its needed signs stand for a stretch of it. -/
theorem accepts_iff_occurs {key : String} {b : Branch} (text : b.text = key.toList)
    (room : HasRoom key) (placed : Placed b.needed) {word : String} (bare : Bare word.toList) :
    accepts key word ↔ Occurs b.needed (anchored word.toList) := by
  rw [(writtenAs_singleton text).accepts_eq room, List.any_cons, List.any_nil, Bool.or_false,
    b.isMatch_iff, exists_follows_iff placed bare]

theorem accepts_ofList_iff {signs : List Char} (plain : ∀ d ∈ signs, isPlain d)
    (room : HasRoom (String.ofList signs)) (placed : Placed signs) {word : String}
    (bare : Bare word.toList) :
    accepts (String.ofList signs) word ↔ Occurs signs (anchored word.toList) := by
  let b : Branch := ⟨signs, none, by simpa using plain⟩
  have text : b.text = (String.ofList signs).toList := by simp [b, Branch.text]
  exact accepts_iff_occurs text room placed bare

end RegexGolf.Fragment
