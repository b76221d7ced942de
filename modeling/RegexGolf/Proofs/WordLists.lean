import Mathlib.Data.List.Induction
import RegexGolf.WordLists

/-!
How two blocks become two lists of words. The positives are all lines of their block; of the lines
of the other block those stay that are not positive, each at the first of its places and in the
order of these. So no word is lost, none is in both lists, and none is listed as negative twice. Of
the positives only the set counts for this.
-/

namespace RegexGolf.WordLists

theorem mem_keepNew {word : String} {seen words : List String} :
    word ∈ keepNew seen words ↔ word ∈ words ∧ word ∉ seen := by
  induction words generalizing seen with
  | nil => simp [keepNew]
  | cons w rest ih =>
    rw [keepNew]
    split
    · rename_i old
      rw [ih, List.mem_cons]
      constructor
      · rintro ⟨later, fresh⟩
        exact ⟨.inr later, fresh⟩
      · rintro ⟨rfl | later, fresh⟩
        · exact absurd (List.contains_iff_mem.1 old) fresh
        · exact ⟨later, fresh⟩
    · rename_i new
      have unseen : w ∉ seen := fun h => new (List.contains_iff_mem.2 h)
      rw [List.mem_cons, ih, List.mem_cons, List.mem_cons]
      constructor
      · rintro (rfl | ⟨later, fresh⟩)
        · exact ⟨.inl rfl, unseen⟩
        · exact ⟨.inr later, fun h => fresh (.inr h)⟩
      · rintro ⟨rfl | later, fresh⟩
        · exact .inl rfl
        · by_cases same : word = w
          · exact .inl same
          · exact .inr ⟨later, fun h => h.elim same fresh⟩

theorem nodup_keepNew (seen words : List String) : (keepNew seen words).Nodup := by
  induction words generalizing seen with
  | nil => exact .nil
  | cons w rest ih =>
    rw [keepNew]
    split
    · exact ih seen
    · refine List.nodup_cons.2 ⟨fun listed => ?_, ih (w :: seen)⟩
      exact (mem_keepNew.1 listed).2 (.head _)

theorem keepNew_congr {seen other : List String} (same : ∀ word, word ∈ seen ↔ word ∈ other)
    (words : List String) : keepNew seen words = keepNew other words := by
  induction words generalizing seen other with
  | nil => rfl
  | cons w rest ih =>
    have more : ∀ word, word ∈ w :: seen ↔ word ∈ w :: other := by simp [same]
    simp only [keepNew, List.contains_iff_mem, same, ih same, ih more]

theorem keepNew_eq_self {seen words : List String} (once : words.Nodup)
    (fresh : ∀ word ∈ words, word ∉ seen) : keepNew seen words = words := by
  induction words generalizing seen with
  | nil => rfl
  | cons w rest ih =>
    obtain ⟨single, others⟩ := List.nodup_cons.1 once
    have unseen : ∀ word ∈ rest, word ∉ w :: seen := by
      intro word listed
      rw [List.mem_cons, not_or]
      refine ⟨?_, fresh word (.tail _ listed)⟩
      rintro rfl
      exact single listed
    simp only [keepNew, List.contains_iff_mem, fresh w (.head _), if_false, ih others unseen]

theorem keepNew_concat (seen words : List String) (w : String) :
    keepNew seen (words ++ [w]) =
      keepNew seen words ++ if w ∈ seen ∨ w ∈ words then [] else [w] := by
  induction words generalizing seen with
  | nil => simp [keepNew]
  | cons v rest ih =>
    rw [List.cons_append, keepNew, keepNew, ih, ih]
    split <;> grind

/-- The words that were not seen, each at the first of its places. -/
def firstOf (seen words : List String) : List String :=
  (words.zipIdx.filter fun entry => entry.1 ∉ seen ∧ entry.1 ∉ words.take entry.2).map (·.1)

theorem firstOf_concat (seen words : List String) (w : String) :
    firstOf seen (words ++ [w]) =
      firstOf seen words ++ if w ∈ seen ∨ w ∈ words then [] else [w] := by
  -- A word at the end stands in front of no other.
  have front : words.zipIdx.filter
        (fun entry => entry.1 ∉ seen ∧ entry.1 ∉ (words ++ [w]).take entry.2) =
      words.zipIdx.filter fun entry => entry.1 ∉ seen ∧ entry.1 ∉ words.take entry.2 := by
    refine List.filter_congr fun entry listed => ?_
    have place : entry.2 < words.length := List.snd_lt_of_mem_zipIdx listed
    rw [List.take_append_of_le_length (Nat.le_of_lt place)]
  rw [firstOf, List.zipIdx_append, List.filter_append, List.map_append, front, ← firstOf]
  by_cases old : w ∈ seen ∨ w ∈ words
  · simpa [old] using fun unseen : w ∉ seen => old.resolve_left unseen
  · simp only [not_or] at old
    simp [old]

theorem keepNew_eq_firstOf (seen words : List String) :
    keepNew seen words = firstOf seen words := by
  induction words using List.reverseRecOn with
  | nil => rfl
  | append_singleton words w ih => rw [keepNew_concat, firstOf_concat, ih]

theorem sublist_firstOf (seen words : List String) : (firstOf seen words).Sublist words := by
  have kept : (firstOf seen words).Sublist (words.zipIdx.map (·.1)) := List.filter_sublist.map _
  rwa [List.zipIdx_map_fst] at kept

theorem mem_disjoint {word : String} {positives negatives : List String} :
    word ∈ disjoint positives negatives ↔ word ∈ negatives ∧ word ∉ positives := mem_keepNew

theorem disjoint_disjoint (positives negatives : List String) :
    disjoint positives (disjoint positives negatives) = disjoint positives negatives :=
  keepNew_eq_self (nodup_keepNew _ _) fun _ listed => (mem_disjoint.1 listed).2

def ofLines (positive negative : String) : WordLists :=
  ⟨Text.Lines.split positive,
    disjoint (Text.Lines.split positive) (Text.Lines.split negative)⟩

theorem ofBlocks_of_ne_empty {positive negative : String} (hp : positive ≠ "")
    (hn : negative ≠ "") : ofBlocks positive negative = .ok (ofLines positive negative) := by
  simp only [ofBlocks, String.isEmpty_iff, hp, hn, if_false, ofLines]

theorem ofBlocks_eq_error_iff {positive negative : String} {e : Error} :
    ofBlocks positive negative = .error e ↔
      positive = "" ∧ e = .emptyBlock .positive ∨
        positive ≠ "" ∧ negative = "" ∧ e = .emptyBlock .negative := by
  by_cases hp : positive = ""
  · have refused : ofBlocks positive negative = .error (.emptyBlock .positive) := by
      rw [ofBlocks, if_pos (String.isEmpty_iff.2 hp)]
    rw [refused, Except.error.injEq]
    simp [hp, eq_comm]
  · by_cases hn : negative = ""
    · have refused : ofBlocks positive negative = .error (.emptyBlock .negative) := by
        rw [ofBlocks, if_neg (mt String.isEmpty_iff.1 hp), if_pos (String.isEmpty_iff.2 hn)]
      rw [refused, Except.error.injEq]
      simp [hp, hn, eq_comm]
    · simp [ofBlocks_of_ne_empty hp hn, hp, hn]

/-- Preparation keeps every word. The negatives that stay are those that are not positive, each at
the first of its places; doing it again changes nothing, and of the positives only the set counts.
Two blocks are refused only if one is empty; otherwise the positives are the lines of theirs. -/
theorem disjoint_lists_first (positives negatives : List String) :
    disjoint positives negatives = firstOf positives negatives ∧
    (disjoint positives negatives).Sublist negatives ∧
    (disjoint positives negatives).Nodup ∧
    (∀ word, word ∈ disjoint positives negatives ↔ word ∈ negatives ∧ word ∉ positives) ∧
    disjoint positives (disjoint positives negatives) = disjoint positives negatives ∧
    (∀ words, (∀ word, word ∈ words ↔ word ∈ positives) →
      disjoint words negatives = disjoint positives negatives) ∧
    ∀ positive negative : String,
      (positive ≠ "" → negative ≠ "" → ofBlocks positive negative =
        .ok ⟨Text.Lines.split positive,
          disjoint (Text.Lines.split positive) (Text.Lines.split negative)⟩) ∧
      ∀ e, ofBlocks positive negative = .error e ↔
        positive = "" ∧ e = .emptyBlock .positive ∨
          positive ≠ "" ∧ negative = "" ∧ e = .emptyBlock .negative := by
  have first : disjoint positives negatives = firstOf positives negatives :=
    keepNew_eq_firstOf positives negatives
  refine ⟨first, ?_, nodup_keepNew _ _, fun word => mem_disjoint, disjoint_disjoint _ _, ?_, ?_⟩
  · rw [first]
    exact sublist_firstOf positives negatives
  · exact fun words same => keepNew_congr same negatives
  · exact fun positive negative => ⟨ofBlocks_of_ne_empty, fun e => ofBlocks_eq_error_iff⟩

theorem disjoint_lists_first_letters :
    disjoint ["b", "a", "b"] ["c", "a", "c", "d"] = disjoint ["a", "b"] ["c", "a", "c", "d"] ∧
      ofBlocks "a\n\na\n" "c\na\nc\n" = .ok ⟨["a", "", "a"], ["c"]⟩ := by
  obtain ⟨-, -, -, -, -, settled, blocks⟩ :=
    disjoint_lists_first ["a", "b"] ["c", "a", "c", "d"]
  refine ⟨settled ["b", "a", "b"] (by simp [or_comm]), ?_⟩
  have lines : Text.Lines.split "a\n\na\n" = ["a", "", "a"] := by decide +kernel
  have others : Text.Lines.split "c\na\nc\n" = ["c", "a", "c"] := by decide +kernel
  rw [(blocks "a\n\na\n" "c\na\nc\n").1 (by decide) (by decide), lines, others]
  decide +kernel

end RegexGolf.WordLists
