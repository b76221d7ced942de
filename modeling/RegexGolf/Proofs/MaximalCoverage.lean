import RegexGolf.Proofs.BranchMatching
import RegexGolf.Proofs.Completion

/-!
How much a run covers. Whatever the strategy, the pattern matches exactly the positives that the
table can match, so that both strategies find a valid pattern for the same lists and a best effort
is the best that the fragments allow. Only if the table is empty is there no pattern, and then there
is nothing to cover.
-/

namespace RegexGolf

open Regex Alternation

/-- Some fragment of the words matches a word and no negative. -/
def Covered (c : Cutting) (words negatives : List String) (word : String) : Prop :=
  ∃ key ∈ (Fragment.space c words).keys, accepts key word ∧ ∀ n ∈ negatives, ¬accepts key n

theorem Regex.accepts_caret (word : String) : accepts "^" word := by
  have plain : isPlain '^' := by decide
  have written : WrittenAs "^" [⟨['^'], none, by simpa using plain⟩] := ⟨by simp, rfl⟩
  have room : HasRoom "^" := hasRoom_iff.2 (by decide +kernel)
  rw [written.accepts_eq room]
  simp only [List.any_cons, List.any_nil, Bool.or_false, Branch.isMatch_iff]
  exact ⟨[], word.toList, rfl, by simp [Branch.needed, follows]⟩

namespace Cover.Complete

variable {table : CoverageTable} {positives negatives : List String} {c : Cover}

theorem any_accepts_iff (h : c.Complete table positives)
    (truth : Coverage.Truthful table positives negatives) {i : Nat} {word : String}
    (place : positives[i]? = some word) :
    c.fragments.any (accepts · word) ↔ ∃ e ∈ table, i ∈ e.hits := by
  rw [List.any_eq_true]
  constructor
  · rintro ⟨f, part, accepted⟩
    obtain ⟨e, listed, rfl⟩ := List.mem_map.1 (h.reached.among f part)
    exact ⟨e, listed, (truth.mem_hits listed).2 ⟨word, place, accepted⟩⟩
  · rintro ⟨e, listed, hit⟩
    obtain ⟨other, same, accepted⟩ := (truth.mem_hits listed).1 hit
    rw [place] at same
    cases same
    exact h.reached.covers e listed word (List.mem_of_getElem? place) accepted

theorem not_any_accepts (h : c.Complete table positives)
    (truth : Coverage.Truthful table positives negatives) {word : String}
    (negative : word ∈ negatives) : c.fragments.any (accepts · word) = false := by
  rw [List.any_eq_false]
  intro f part
  obtain ⟨e, listed, rfl⟩ := List.mem_map.1 (h.reached.among f part)
  rw [truth.spares listed negative]
  exact Bool.false_ne_true

theorem eq_nil {positives : List String} {c : Cover} (h : c.Complete [] positives) : c = [] := by
  cases c with
  | nil => rfl
  | cons part c => simpa using h.reached.among part.fragment (by simp [fragments])

theorem ne_nil (h : c.Complete table positives)
    (truth : Coverage.Truthful table positives negatives) (some : table ≠ []) : c ≠ [] := by
  obtain ⟨e, rest, rfl⟩ := List.exists_cons_of_ne_nil some
  have kept := truth.kept e (.head _)
  rw [Coverage.isKept, Bool.and_eq_true, List.any_eq_true] at kept
  obtain ⟨⟨word, positive, accepted⟩, -⟩ := kept
  obtain ⟨f, part, -⟩ := h.reached.covers e (.head _) word positive accepted
  rintro rfl
  simp [fragments] at part

end Cover.Complete

theorem Alternation.join_ne_empty {parts : List String} (some : parts ≠ [])
    (each : ∀ f ∈ parts, f ≠ "") : join parts ≠ "" := by
  obtain ⟨f, rest, rfl⟩ := List.exists_cons_of_ne_nil some
  intro none
  by_cases only : rest = []
  · rw [only, join_singleton] at none
    exact each f (.head _) none
  · have text := toList_join_cons f only
    rw [none] at text
    simp at text

namespace Synthesis

variable {lists : WordLists} {cutting : Cutting} {table : CoverageTable}

theorem exists_hit_iff_covered (ends : tableOf lists cutting = .ok table) {i : Nat} {word : String}
    (place : lists.positives[i]? = .some word) :
    (∃ e ∈ table, i ∈ e.hits) ↔ Covered cutting lists.positives lists.negatives word := by
  have truth := Coverage.truthful_table ends
  constructor
  · rintro ⟨e, listed, hit⟩
    obtain ⟨other, same, accepted⟩ := (truth.mem_hits listed).1 hit
    rw [place] at same
    cases same
    refine ⟨e.fragment, ?_, accepted, fun n negative => ?_⟩
    · exact ((Coverage.mem_fragments_table ends).1 (List.mem_map_of_mem listed)).1
    · rw [truth.spares listed negative]
      exact Bool.false_ne_true
  · rintro ⟨key, member, accepted, spares⟩
    have kept : Coverage.isKept lists.positives lists.negatives key := by
      simp only [Coverage.isKept, Bool.and_eq_true, Bool.not_eq_true', List.any_eq_true,
        List.any_eq_false]
      exact ⟨⟨word, List.mem_of_getElem? place, accepted⟩, spares⟩
    obtain ⟨e, listed, rfl⟩ :=
      List.mem_map.1 ((Coverage.mem_fragments_table ends).2 ⟨member, kept⟩)
    exact ⟨e, listed, (truth.mem_hits listed).2 ⟨word, place, accepted⟩⟩

theorem negatives_ne_nil (wide : 1 ≤ cutting.window) (some : lists.positives ≠ [])
    (ends : tableOf lists cutting = .ok []) : lists.negatives ≠ [] := by
  intro none
  obtain ⟨word, rest, eq⟩ := List.exists_cons_of_ne_nil some
  have listed : word ∈ lists.positives := eq ▸ .head _
  have key : "^" ∈ (Fragment.space cutting lists.positives).keys :=
    Fragment.mem_space_of_stretch listed (List.cons_ne_nil '^' []) wide ⟨[], _, rfl⟩
  have first : lists.positives[0]? = .some word := by rw [eq]; rfl
  obtain ⟨e, listed, -⟩ := (exists_hit_iff_covered ends first).2
    ⟨"^", key, accepts_caret word, by simp [none]⟩
  simp at listed

theorem matches_of_complete (ends : tableOf lists cutting = .ok table) {c : Cover}
    (complete : c.Complete table lists.positives) (some : table ≠ []) {r : Regex}
    (read : parse c.pattern = .ok r) :
    (∀ word ∈ lists.negatives, ¬r.isMatch word) ∧
      ∀ i word, lists.positives[i]? = .some word →
        (r.isMatch word ↔ ∃ e ∈ table, i ∈ e.hits) := by
  have truth := Coverage.truthful_table ends
  have meaning := complete.isMatch_eq (complete.ne_nil truth some) (agrees_tableOf ends) read
  refine ⟨fun word negative => ?_, fun i word place => ?_⟩
  · rw [meaning, complete.not_any_accepts truth negative]
    exact Bool.false_ne_true
  · rw [meaning]
    exact complete.any_accepts_iff truth place

theorem pattern_ne_empty_of_complete (ends : tableOf lists cutting = .ok table) {c : Cover}
    (complete : c.Complete table lists.positives) (some : table ≠ []) : c.pattern ≠ "" := by
  have parts := complete.ne_nil (Coverage.truthful_table ends) some
  refine join_ne_empty (by simpa using parts) fun f part => ?_
  exact Fragment.ne_empty_of_mem_space
    ((Coverage.mem_fragments_table ends).1 (complete.reached.among f part)).1

theorem parse_pattern_of_complete (wide : 1 ≤ cutting.window)
    (ends : tableOf lists cutting = .ok table)
    (room : LeavesRoom lists.positives.length (table.map (·.fragment))) {c : Cover}
    (complete : c.Complete table lists.positives) (some : table ≠ []) :
    c.pattern ≠ "" ∧ ∃ r, parse c.pattern = .ok r ∧
      (∀ word ∈ lists.negatives, ¬r.isMatch word) ∧
      ∀ i word, lists.positives[i]? = .some word →
        (r.isMatch word ↔ ∃ e ∈ table, i ∈ e.hits) := by
  have parts := complete.ne_nil (Coverage.truthful_table ends) some
  obtain ⟨r, read, -⟩ := complete.parse_pattern parts (unites_tableOf wide ends room)
  exact ⟨pattern_ne_empty_of_complete ends complete some, r, read,
    matches_of_complete ends complete some read⟩

theorem validates_of_complete (wide : 1 ≤ cutting.window) (some : lists.positives ≠ [])
    (ends : tableOf lists cutting = .ok table) {c : Cover}
    (complete : c.Complete table lists.positives) {r : Regex} (read : parse c.pattern = .ok r) :
    r.validates lists.positives lists.negatives ↔
      ∀ i < lists.positives.length, ∃ e ∈ table, i ∈ e.hits := by
  rw [r.validates_iff]
  by_cases none : table = []
  · subst none
    obtain ⟨word, negative⟩ := List.exists_mem_of_ne_nil _ (negatives_ne_nil wide some ends)
    rw [complete.eq_nil, Cover.pattern_nil, Cover.parse_empty] at read
    cases read
    constructor
    · rintro ⟨-, spares⟩
      exact absurd (Cover.isMatch_empty word) (spares word negative)
    · intro all
      obtain ⟨e, listed, -⟩ := all 0 (List.length_pos_of_ne_nil some)
      simp at listed
  · obtain ⟨spares, covers⟩ := matches_of_complete ends complete none read
    constructor
    · rintro ⟨all, -⟩ i inside
      have place := List.getElem?_eq_getElem inside
      exact (covers i _ place).1 (all _ (List.getElem_mem inside))
    · intro all
      refine ⟨fun word positive => ?_, spares⟩
      obtain ⟨i, place⟩ := List.mem_iff_getElem?.1 positive
      exact (covers i word place).2 (all i (List.getElem?_eq_some_iff.1 place).1)

theorem converged_of_tableOf (strategy : Strategy) (wide : 1 ≤ cutting.window)
    (some : lists.positives ≠ []) (ends : tableOf lists cutting = .ok table)
    (room : LeavesRoom lists.positives.length (table.map (·.fragment))) :
    ∃ s, run lists ⟨strategy, cutting⟩ = .ok s ∧ s.cover.Complete table lists.positives ∧
      (s.converged ↔ ∀ i < lists.positives.length, ∃ e ∈ table, i ∈ e.hits) := by
  obtain ⟨s, ran, complete⟩ := run_of_tableOf strategy wide ends room
  obtain ⟨r, read, judged⟩ := parse_of_run ran
  refine ⟨s, ran, complete, ?_⟩
  rw [judged]
  exact validates_of_complete wide some ends complete read

/-- What a run covers, by either strategy. -/
theorem run_covers (lists : WordLists) (cutting : Cutting) (some : lists.positives ≠ [])
    (wide : 1 ≤ cutting.window) (table : CoverageTable)
    (ends : tableOf lists cutting = .ok table)
    (room : LeavesRoom lists.positives.length (table.map (·.fragment))) :
    (∀ strategy, ∃ s, run lists ⟨strategy, cutting⟩ = .ok s ∧
      (table ≠ [] → s.pattern ≠ "" ∧ ∃ r, parse s.pattern = .ok r ∧
        (∀ word ∈ lists.negatives, ¬r.isMatch word) ∧
        ∀ i word, lists.positives[i]? = .some word →
          (r.isMatch word ↔ ∃ e ∈ table, i ∈ e.hits)) ∧
      (s.converged ↔ ∀ i < lists.positives.length, ∃ e ∈ table, i ∈ e.hits)) ∧
    (∀ s t, run lists ⟨.weighted, cutting⟩ = .ok s → run lists ⟨.simple, cutting⟩ = .ok t →
      s.converged = t.converged) ∧
    ∀ strategy bestEffort,
      Solution.ofRun lists ⟨strategy, cutting⟩ (run lists ⟨strategy, cutting⟩) =
          .error (.notConverged bestEffort) →
      bestEffort = "" ∨ ∃ r, parse bestEffort = .ok r ∧ ∀ word ∈ lists.positives,
        Covered cutting lists.positives lists.negatives word → r.isMatch word := by
  have outcome := fun strategy => converged_of_tableOf strategy wide some ends room
  refine ⟨fun strategy => ?_, fun s t weighted simple => ?_, fun strategy bestEffort fails => ?_⟩
  · obtain ⟨s, ran, complete, converged⟩ := outcome strategy
    exact ⟨s, ran, parse_pattern_of_complete wide ends room complete, converged⟩
  · obtain ⟨s', ran, -, converged⟩ := outcome .weighted
    obtain ⟨t', ran', -, converged'⟩ := outcome .simple
    rw [weighted] at ran
    rw [simple] at ran'
    cases ran
    cases ran'
    rw [Bool.eq_iff_iff, converged, converged']
  · obtain ⟨s, ran, complete, -⟩ := outcome strategy
    have told : bestEffort = s.pattern := by
      rw [ran, Solution.ofRun] at fails
      split at fails
      · cases fails
      · cases fails
        rfl
    subst told
    by_cases none : table = []
    · subst none
      exact .inl (by rw [pattern, complete.eq_nil, Cover.pattern_nil])
    · obtain ⟨-, r, read, -, covers⟩ := parse_pattern_of_complete wide ends room complete none
      refine .inr ⟨r, read, fun word positive covered => ?_⟩
      obtain ⟨i, place⟩ := List.mem_iff_getElem?.1 positive
      exact (covers i word place).2 ((exists_hit_iff_covered ends place).2 covered)

theorem run_covers_letters :
    ∃ s, run ⟨["a", "b"], ["c"]⟩ ⟨.simple, ⟨1, false, false⟩⟩ = .ok s ∧ s.converged := by
  have built : tableOf ⟨["a", "b"], ["c"]⟩ ⟨1, false, false⟩ =
      .ok [⟨"a", [0]⟩, ⟨"b", [1]⟩] := by decide +kernel
  have room : LeavesRoom 2 ["a", "b"] :=
    leavesRoom_of_choices [['a'], ['b']] (by decide) (by decide +kernel)
  obtain ⟨outcome, -⟩ :=
    run_covers ⟨["a", "b"], ["c"]⟩ ⟨1, false, false⟩ (by simp) (by decide) _ built room
  obtain ⟨s, ran, -, converged⟩ := outcome .simple
  exact ⟨s, ran, converged.2 (by decide)⟩

end Synthesis

end RegexGolf
