import Mathlib.Control.Monad.Basic
import RegexGolf.Proofs.Lines
import RegexGolf.Proofs.MaximalCoverage
import RegexGolf.Proofs.Outcome
import RegexGolf.Proofs.WeightedPass

/-!
What an answer says of the weighted pass behind it. The end of a search judges the pattern and does
not ask whether the pass stopped early. The two verdicts agree as long as there is a window: then an
answer means that the last pick left nothing open. Without a window there is nothing to pick, and
the empty pattern is answered although the pass stopped at once, if only no negative is left.
-/

namespace RegexGolf

open Regex Alternation

namespace Score.Weighted

variable {table : CoverageTable} {positives negatives : List String} {m : Matcher} {p : Progress}

theorem size_of_reaches (truth : Coverage.Truthful table positives negatives)
    (agrees : Agrees positives.length (table.map (·.fragment))) (honest : m.Honest)
    (reaches : Reaches table positives (start positives m) p) :
    p.free.size = p.picks.head?.elim positives.length (·.remaining) := by
  cases reaches with
  | refl => exact Open.size_replicate positives.length
  | tail earlier leads =>
    have faithful := (faithful_start table positives honest).steps truth agrees earlier
    obtain ⟨-, pick, picks, next⟩ := faithful.step truth agrees leads
    obtain ⟨e, picked⟩ := TableCover.picks_of_next next
    rw [picks, List.head?_cons, Option.elim_some, picked.remaining]

end Score.Weighted

namespace Synthesis

variable {lists : WordLists} {cutting : Cutting} {table : CoverageTable} {s : Synthesis}

theorem eq_nil_of_tableOf (narrow : cutting.window = 0) (ends : tableOf lists cutting = .ok table) :
    table = [] := by
  rw [List.eq_nil_iff_forall_not_mem]
  intro e listed
  have key := ((Coverage.mem_fragments_table ends).1 (List.mem_map_of_mem listed)).1
  have wide := Fragment.wide_of_mem_space key
  omega

theorem exists_last_of_run (ran : run lists ⟨.weighted, cutting⟩ = .ok s) :
    ∃ table q, tableOf lists cutting = .ok table ∧ s.cover.Complete table lists.positives ∧
      Score.Weighted.Faithful table lists.positives q ∧
      Score.Weighted.Finished table lists.positives q ∧
      q.free.size = q.picks.head?.elim lists.positives.length (·.remaining) ∧
      s.scoring = .weighted ⟨q.picks.reverse, q.free.size, false⟩ := by
  obtain ⟨table, m, ends, scored, complete⟩ := complete_of_run ran
  have truth := Coverage.truthful_table ends
  have agrees := agrees_tableOf ends
  obtain ⟨⟨w, m'⟩, played, eq⟩ := bind_eq_ok_iff.1 scored
  obtain ⟨q, reaches, faithful, finished, rfl⟩ :=
    Score.exists_last_of_weighted truth Matcher.honest_empty agrees played
  refine ⟨table, q, ends, complete, faithful, finished, ?_, ?_⟩
  · exact Score.Weighted.size_of_reaches truth agrees Matcher.honest_empty reaches
  · exact (congrArg Prod.fst (Except.ok.inj eq)).symm

theorem candidates_eq_nil_iff {w : Score.Weighted} (scoring : s.scoring = .weighted w) :
    s.candidates = [] ↔ w.picks = [] := by
  have ranked : s.candidates.Perm w.scores.entries := by
    rw [candidates, scoring]
    exact w.scores.perm_ranked
  constructor
  · intro none
    rw [none, List.nil_perm] at ranked
    rw [List.eq_nil_iff_forall_not_mem]
    intro pick listed
    have key : pick.fragment ∈ w.scores.keys :=
      Pool.mem_keys_ofList.2 (by simpa using ⟨pick, listed, rfl⟩)
    rw [Pool.keys, ranked] at key
    cases key
  · intro none
    rw [Score.Weighted.scores, none] at ranked
    exact (ranked.trans (Pool.perm_entries_ofList .nil)).eq_nil

theorem converged_of_run (wide : cutting.window ≠ 0) (some : lists.positives ≠ [])
    (ran : run lists ⟨.weighted, cutting⟩ = .ok s) (converged : s.converged) :
    ∃ w, s.scoring = .weighted w ∧ w.converged ∧ w.picks ≠ [] ∧
      w.picks.getLast?.map (·.remaining) = .some 0 ∧ s.pattern ≠ "" ∧ s.candidates ≠ [] := by
  obtain ⟨table, q, ends, complete, faithful, finished, newest, scoring⟩ := exists_last_of_run ran
  have truth := Coverage.truthful_table ends
  obtain ⟨r, read, judged⟩ := parse_of_run ran
  rw [judged] at converged
  have all := (validates_of_complete (Nat.pos_of_ne_zero wide) some ends complete read).1 converged
  have nothing : q.free.size = 0 := by
    rw [faithful.size_of_closed truth finished.not_has, List.countP_eq_zero]
    simpa using all
  have positive := List.length_pos_of_ne_nil some
  obtain ⟨e, listed, -⟩ := all 0 positive
  have pattern := pattern_ne_empty_of_complete ends complete (List.ne_nil_of_mem listed)
  obtain ⟨pick, earlier, picks⟩ : ∃ pick earlier, q.picks = pick :: earlier := by
    cases picks : q.picks with
    | nil =>
      rw [picks, nothing] at newest
      exact absurd newest (Nat.ne_of_lt positive)
    | cons pick earlier => exact ⟨pick, earlier, rfl⟩
  have made : q.picks.reverse ≠ [] := by simp [picks]
  refine ⟨_, scoring, ?_, made, ?_, pattern,
    fun none => made ((candidates_eq_nil_iff scoring).1 none)⟩
  · rw [Score.Weighted.converged, nothing]
    rfl
  · rw [nothing, picks] at newest
    simpa [picks] using newest.symm

theorem not_converged_of_run (narrow : cutting.window = 0) (some : lists.positives ≠ [])
    (ran : run lists ⟨.weighted, cutting⟩ = .ok s) :
    (∃ w, s.scoring = .weighted w ∧ w.converged = false ∧ w.picks = []) ∧ s.pattern = "" ∧
      s.candidates = [] ∧ (s.converged ↔ lists.negatives = []) := by
  obtain ⟨table, q, ends, complete, faithful, -, newest, scoring⟩ := exists_last_of_run ran
  obtain rfl := eq_nil_of_tableOf narrow ends
  have picks : q.picks = [] := by
    rw [List.eq_nil_iff_forall_not_mem]
    intro pick listed
    have named : pick.fragment ∈ q.alternation := faithful.named ▸ List.mem_map_of_mem listed
    cases faithful.among pick.fragment named
  have pattern : s.pattern = "" := by
    rw [pattern, complete.eq_nil, Cover.pattern_nil]
  have open_ : q.free.size ≠ 0 := by
    rw [newest, picks]
    exact Nat.ne_of_gt (List.length_pos_of_ne_nil some)
  have made : q.picks.reverse = [] := by rw [picks, List.reverse_nil]
  obtain ⟨r, read, judged⟩ := parse_of_run ran
  rw [pattern, Cover.parse_empty] at read
  cases read
  refine ⟨⟨_, scoring, ?_, made⟩, pattern, (candidates_eq_nil_iff scoring).2 made, ?_⟩
  · simpa [Score.Weighted.converged] using open_
  · rw [judged, Regex.validates_iff]
    constructor
    · rintro ⟨-, spares⟩
      exact List.eq_nil_iff_forall_not_mem.2 fun word listed =>
        spares word listed (Cover.isMatch_empty word)
    · intro none
      exact ⟨fun word _ => Cover.isMatch_empty word, by simp [none]⟩

end Synthesis

/-- What an answer says of the weighted pass. With a window the pass has converged, and with it the
last of its picks left nothing open; without a window it has stopped before its first pick, and
there is an answer only because every negative is a positive too. -/
theorem solve_weighted_answer (positive negative : String) (cutting : Cutting) (s : Solution)
    (found : solve positive negative ⟨.weighted, cutting⟩ = .ok s) :
    ∃ w, s.synthesis.scoring = .weighted w ∧
      if cutting.window = 0 then
        w.converged = false ∧ w.picks = [] ∧ s.pattern = "" ∧ s.candidates = [] ∧
          ∀ line ∈ Text.Lines.split negative, line ∈ Text.Lines.split positive
      else
        w.converged ∧ w.picks ≠ [] ∧ w.picks.getLast?.map (·.remaining) = some 0 ∧
          s.pattern ≠ "" ∧ s.candidates ≠ [] := by
  obtain ⟨ran, converged⟩ := run_of_solve found
  have lines : (WordLists.ofLines positive negative).positives ≠ [] :=
    Text.Lines.split_ne_nil positive
  by_cases narrow : cutting.window = 0
  · obtain ⟨⟨w, scoring, stopped, picks⟩, pattern, candidates, valid⟩ :=
      Synthesis.not_converged_of_run narrow lines ran
    refine ⟨w, scoring, ?_⟩
    rw [if_pos narrow]
    refine ⟨stopped, picks, pattern, candidates, fun line listed => ?_⟩
    by_contra other
    have kept : line ∈ (WordLists.ofLines positive negative).negatives :=
      WordLists.mem_disjoint.2 ⟨listed, other⟩
    rw [valid.1 converged] at kept
    cases kept
  · obtain ⟨w, scoring, covered⟩ := Synthesis.converged_of_run narrow lines ran converged
    refine ⟨w, scoring, ?_⟩
    rw [if_neg narrow]
    exact covered

theorem solve_weighted_answer_letters :
    ∃ s w, solve "a\nb" "b\nc" ⟨.weighted, ⟨1, false, false⟩⟩ = .ok s ∧
      s.synthesis.scoring = .weighted w ∧ w.converged ∧ s.pattern ≠ "" := by
  have answered : (solve "a\nb" "b\nc" ⟨.weighted, ⟨1, false, false⟩⟩).toOption.isSome := by
    decide +kernel
  cases found : solve "a\nb" "b\nc" ⟨.weighted, ⟨1, false, false⟩⟩ with
  | error e => simp [found, Except.toOption] at answered
  | ok s =>
    obtain ⟨w, scoring, covered⟩ := solve_weighted_answer _ _ _ s found
    rw [if_neg (by decide)] at covered
    exact ⟨s, w, rfl, scoring, covered.1, covered.2.2.2.1⟩

/-- A pass that stopped early behind an answer: there is no window, and no negative is left. -/
theorem solve_without_window :
    ∃ s w, solve "a" "a" ⟨.weighted, ⟨0, true, true⟩⟩ = .ok s ∧
      s.synthesis.scoring = .weighted w ∧ w.converged = false ∧ w.picks = [] ∧ s.pattern = "" ∧
      s.candidates = [] :=
  ⟨⟨⟨["a"], []⟩, .weighted, ⟨0, 0, 0, .weighted ⟨[], 1, false⟩, [], true⟩⟩, ⟨[], 1, false⟩,
    by decide +kernel⟩

end RegexGolf
