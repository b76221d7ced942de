import RegexGolf.Proofs.Completion
import RegexGolf.Proofs.Lines

/-!
A pattern cut back into its parts. Fragments are joined as they stand, and the number of alternatives
is found by cutting the pattern at every `|`. The cut gives back the parts exactly if none of them
holds the separator. Where a run lets fragments repeat it refuses words that hold one; otherwise the
sign can come from a word only.
-/

namespace RegexGolf

open Regex

namespace Alternation

theorem split_join_cons (part : String) {parts : List String} (some : parts ≠ []) :
    split (join (part :: parts)) = split part ++ split (join parts) := by
  simp only [split, toList_join_cons part some, List.splitOn_append_cons_self, List.map_append]

theorem split_join {parts : List String} (some : parts ≠ []) :
    split (join parts) = parts.flatMap split := by
  induction parts with
  | nil => exact absurd rfl some
  | cons part rest ih =>
    by_cases only : rest = []
    · rw [only, join_singleton, List.flatMap_singleton]
    · rw [split_join_cons part only, ih only, List.flatMap_cons]

theorem split_ne_nil (pattern : String) : split pattern ≠ [] := by
  simp [split, List.splitOn_ne_nil]

theorem not_mem_of_mem_split {pattern part : String} (listed : part ∈ split pattern) :
    '|' ∉ part.toList := by
  obtain ⟨text, among, rfl⟩ := List.mem_map.1 listed
  rw [String.toList_ofList]
  exact Text.Lines.not_mem_of_mem_splitOn among

theorem split_eq_singleton {part : String} (whole : '|' ∉ part.toList) : split part = [part] := by
  rw [split, List.splitOn_eq_singleton whole, List.map_singleton, String.ofList_toList]

theorem not_mem_of_length_split {part : String} (single : (split part).length = 1) :
    '|' ∉ part.toList := by
  obtain ⟨text, only⟩ : ∃ text, part.toList.splitOn '|' = [text] :=
    List.length_eq_one_iff.1 (by simpa [split] using single)
  have whole : ['|'].intercalate (part.toList.splitOn '|') = part.toList :=
    List.intercalate_splitOn '|'
  have listed : text ∈ part.toList.splitOn '|' := by simp [only]
  rw [only, List.intercalate_singleton] at whole
  rw [← whole]
  exact Text.Lines.not_mem_of_mem_splitOn listed

/-- There are as many alternatives as parts exactly if no part holds the separator. -/
theorem length_flatMap_split {parts : List String} :
    parts.length ≤ (parts.flatMap split).length ∧
      ((parts.flatMap split).length = parts.length ↔ ∀ part ∈ parts, '|' ∉ part.toList) := by
  induction parts with
  | nil => simp
  | cons part rest ih =>
    obtain ⟨atLeast, exact_⟩ := ih
    have own := List.length_pos_of_ne_nil (split_ne_nil part)
    rw [List.flatMap_cons, List.length_append, List.length_cons, List.forall_mem_cons, ← exact_]
    refine ⟨by omega, fun same => ⟨not_mem_of_length_split (by omega), by omega⟩, ?_⟩
    rintro ⟨whole, same⟩
    rw [same, split_eq_singleton whole, List.length_singleton, Nat.add_comm]

theorem split_join_eq_iff {parts : List String} (some : parts ≠ []) :
    split (join parts) = parts ↔ ∀ part ∈ parts, '|' ∉ part.toList := by
  constructor
  · intro again part listed
    exact not_mem_of_mem_split (again.symm ▸ listed)
  · intro whole
    rw [split_join some, List.flatMap_congr fun part listed => split_eq_singleton (whole part listed),
      List.flatMap_singleton']

theorem mem_join {parts : List String} {d : Char} (held : d ∈ (join parts).toList) :
    d = '|' ∨ ∃ part ∈ parts, d ∈ part.toList := by
  induction parts with
  | nil => simp [join] at held
  | cons part rest ih =>
    by_cases only : rest = []
    · rw [only, join_singleton] at held
      exact .inr ⟨part, .head _, held⟩
    · rw [toList_join_cons part only, List.mem_append, List.mem_cons] at held
      rcases held with held | held | held
      · exact .inr ⟨part, .head _, held⟩
      · exact .inl held
      · refine (ih held).imp_right ?_
        rintro ⟨other, listed, held⟩
        exact ⟨other, .tail _ listed, held⟩

theorem empty_mem_split {pattern : String} {before after : List Char}
    (cut : pattern.toList = before ++ '|' :: after) (bare : before = [] ∨ after = []) :
    "" ∈ split pattern := by
  rw [split, cut, List.splitOn_append_cons_self, List.map_append, List.mem_append]
  rcases bare with rfl | rfl
  · exact .inl (.head _)
  · exact .inr (.head _)

end Alternation

namespace Synthesis

open Alternation

variable {lists : WordLists} {options : Options} {s : Synthesis}

theorem mem_space_of_run (ran : run lists options = .ok s) :
    ∀ f ∈ s.cover.fragments, f ∈ (Fragment.space options.cutting lists.positives).keys := by
  obtain ⟨table, -, ends, -, complete⟩ := complete_of_run ran
  exact fun f part => ((Coverage.mem_fragments_table ends).1 (complete.reached.among f part)).1

/-- A sign without case that no pattern is given comes from a positive. -/
theorem exists_word_of_mem_pattern (ran : run lists options = .ok s) {d : Char}
    (held : d ∈ s.pattern.toList) (caseless : Unicode.isCaseless d)
    (foreign : d ∉ ['|', '^', '$', '.', '+', '*', '?']) :
    ∃ word ∈ lists.positives, d ∈ word.toList := by
  rw [List.mem_cons, not_or] at foreign
  obtain ⟨f, part, held⟩ := (mem_join held).resolve_left foreign.1
  exact Fragment.exists_word_of_mem_key (mem_space_of_run ran f part) held caseless foreign.2

theorem not_mem_bar_of_run (ran : run lists options = .ok s)
    (clean : options.cutting.quantifiers ∨ ∀ word ∈ lists.positives, '|' ∉ word.toList) :
    ∀ f ∈ s.cover.fragments, '|' ∉ f.toList := by
  intro f part bar
  have key := mem_space_of_run ran f part
  obtain ⟨word, listed, held⟩ :=
    Fragment.exists_word_of_mem_key key bar (by decide) (by decide)
  rcases clean with quantifiers | clean
  · obtain ⟨table, -, ends, -⟩ := complete_of_run ran
    exact free_of_tableOf (Fragment.wide_of_mem_space key) ends word listed
      (.inr ⟨quantifiers, held⟩)
  · exact clean word listed held

/-- What the cut of a pattern tells of the parts that were appended. -/
theorem run_pattern_splits (lists : WordLists) (options : Options) (s : Synthesis)
    (ran : run lists options = .ok s) (some : s.pattern ≠ "") :
    split s.pattern = s.cover.fragments.flatMap split ∧
    (split s.pattern = s.cover.fragments ↔ ∀ f ∈ s.cover.fragments, '|' ∉ f.toList) ∧
    (s.selected = s.cover.length ↔ ∀ f ∈ s.cover.fragments, '|' ∉ f.toList) ∧
    ((options.cutting.quantifiers ∨ ∀ word ∈ lists.positives, '|' ∉ word.toList) →
      (∀ f ∈ s.cover.fragments, '|' ∉ f.toList) ∧ (∀ part ∈ split s.pattern, part ≠ "") ∧
        ¬['|'] <+: s.pattern.toList ∧ ¬['|'] <:+ s.pattern.toList) := by
  have parts : s.cover.fragments ≠ [] := by
    intro none
    exact some (by rw [pattern, Cover.pattern, ← Cover.fragments, none]; rfl)
  have cut : split s.pattern = s.cover.fragments.flatMap split := split_join parts
  have counted : s.selected = (s.cover.fragments.flatMap split).length := by
    rw [selected, count, if_neg (by simpa [String.isEmpty_iff] using some), cut]
  have size : s.cover.length = s.cover.fragments.length := by simp [Cover.fragments]
  refine ⟨cut, split_join_eq_iff parts, ?_, fun clean => ?_⟩
  · rw [counted, size]
    exact length_flatMap_split.2
  · have whole := not_mem_bar_of_run ran clean
    have again : split s.pattern = s.cover.fragments := (split_join_eq_iff parts).2 whole
    have each : ∀ part ∈ split s.pattern, part ≠ "" := fun part listed =>
      Fragment.ne_empty_of_mem_space (mem_space_of_run ran part (again ▸ listed))
    refine ⟨whole, each, ?_, ?_⟩
    · rintro ⟨after, starts⟩
      exact each "" (empty_mem_split starts.symm (.inl rfl)) rfl
    · rintro ⟨before, ends⟩
      exact each "" (empty_mem_split ends.symm (.inr rfl)) rfl

theorem run_pattern_splits_letters :
    ∃ s, run ⟨["a", "b"], ["c"]⟩ ⟨.simple, ⟨1, false, false⟩⟩ = .ok s ∧ s.pattern = "a|b" ∧
      s.cover.fragments = ["a", "b"] ∧ s.selected = s.cover.length := by
  have answered : (run ⟨["a", "b"], ["c"]⟩ ⟨.simple, ⟨1, false, false⟩⟩).toOption.map
      (·.pattern) = some "a|b" := by decide +kernel
  cases ran : run ⟨["a", "b"], ["c"]⟩ ⟨.simple, ⟨1, false, false⟩⟩ with
  | error e => simp [ran, Except.toOption] at answered
  | ok s =>
    have pattern : s.pattern = "a|b" := by simpa [ran, Except.toOption] using answered
    obtain ⟨-, again, counted, clean⟩ := run_pattern_splits _ _ s ran (by rw [pattern]; decide)
    obtain ⟨whole, -⟩ := clean (.inr (by decide))
    refine ⟨s, rfl, pattern, ?_, counted.2 whole⟩
    rw [← again.2 whole, pattern]
    decide

/-- A part that holds the separator is counted as two alternatives, one of them empty. -/
theorem run_pattern_with_bar :
    ∃ s, run ⟨["!|", "x"], []⟩ ⟨.simple, ⟨2, false, false⟩⟩ = .ok s ∧ s.pattern = "!|" ∧
      s.cover.fragments = ["!|"] ∧ split s.pattern = ["!", ""] ∧ s.selected = 2 := by
  have answered : (run ⟨["!|", "x"], []⟩ ⟨.simple, ⟨2, false, false⟩⟩).toOption.map
      (·.cover) = some [⟨"!|", 2, 0⟩] := by decide +kernel
  cases ran : run ⟨["!|", "x"], []⟩ ⟨.simple, ⟨2, false, false⟩⟩ with
  | error e => simp [ran, Except.toOption] at answered
  | ok s =>
    have cover : s.cover = [⟨"!|", 2, 0⟩] := by simpa [ran, Except.toOption] using answered
    refine ⟨s, rfl, ?_⟩
    rw [selected, pattern, cover]
    decide

end Synthesis

end RegexGolf
