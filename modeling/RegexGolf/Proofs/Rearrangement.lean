import RegexGolf.Proofs.CoverageTable
import RegexGolf.Proofs.Outcome
import RegexGolf.Proofs.SimpleScores
import RegexGolf.Proofs.WeightedRounds

/-!
The order of the lines does not show. Two lists whose positives are the same up to their order and
whose negatives are the same words are searched in step: their tables name the same fragments,
though with other places, and their rounds pick the same fragments with the same numbers, since a
round looks at places only to count words and to name them.
-/

namespace RegexGolf

open Regex Alternation

/-- The lists hold the same words, the positives as often. -/
structure WordLists.Rearranges (a b : WordLists) : Prop where
  positives : a.positives.Perm b.positives
  negatives : ∀ word, word ∈ a.negatives ↔ word ∈ b.negatives

theorem any_eq_of_mem_iff {words others : List String}
    (same : ∀ word, word ∈ words ↔ word ∈ others) (p : String → Bool) :
    words.any p = others.any p := by
  rw [Bool.eq_iff_iff, List.any_eq_true, List.any_eq_true]
  simp only [same]

section

variable {positives words negatives others : List String}

theorem Regex.validates_of_perm (r : Regex) (perm : positives.Perm words)
    (same : ∀ word, word ∈ negatives ↔ word ∈ others) :
    r.validates positives negatives = r.validates words others := by
  rw [validates, validates, perm.all_eq, any_eq_of_mem_iff same]

theorem Regex.isContained_of_perm (r : Regex) (perm : positives.Perm words)
    (same : ∀ word, word ∈ negatives ↔ word ∈ others) :
    r.isContained positives negatives = r.isContained words others := by
  rw [isContained, isContained, perm.any_eq, any_eq_of_mem_iff same]

theorem Matcher.validate_of_perm (m : Matcher) (pattern : String) (perm : positives.Perm words)
    (same : ∀ word, word ∈ negatives ↔ word ∈ others) :
    m.validate pattern positives negatives = m.validate pattern words others := by
  simp only [validate, Regex.validates_of_perm _ perm same]

theorem Matcher.contains_of_perm (m : Matcher) (pattern : String) (perm : positives.Perm words)
    (same : ∀ word, word ∈ negatives ↔ word ∈ others) :
    m.contains pattern positives negatives = m.contains pattern words others := by
  simp only [contains, Regex.isContained_of_perm _ perm same]

end

namespace Coverage

def listing (fragments positives : List String) : CoverageTable :=
  fragments.map fun f => ⟨f, placesOf f positives⟩

theorem length_listing (fragments positives : List String) :
    (listing fragments positives).length = fragments.length := List.length_map _

variable {a b : WordLists}

theorem isKept_of_rearranges (h : a.Rearranges b) :
    isKept a.positives a.negatives = isKept b.positives b.negatives := by
  funext f
  rw [isKept, isKept, h.positives.any_eq, any_eq_of_mem_iff h.negatives]

theorem table_of_rearranges (h : a.Rearranges b) (p : Pool) :
    (∃ e, table p a.positives a.negatives = .error e ∧
        table p b.positives b.negatives = .error e) ∨
      ∃ fragments, table p a.positives a.negatives = .ok (listing fragments a.positives) ∧
        table p b.positives b.negatives = .ok (listing fragments b.positives) := by
  cases ends : table p a.positives a.negatives with
  | error e =>
    exact .inl ⟨e, rfl, ofFragments_eq_error_iff.2 (ofFragments_eq_error_iff.1 ends)⟩
  | ok t =>
    obtain ⟨all, eq⟩ := ofFragments_eq_ok ends
    obtain ⟨t', ends'⟩ : ∃ t', ofFragments b.positives b.negatives p.keys = .ok t' :=
      ofFragments_of_parse all
    obtain ⟨-, eq'⟩ := ofFragments_eq_ok ends'
    refine .inr ⟨p.keys.filter (isKept a.positives a.negatives), by rw [eq]; rfl, ?_⟩
    rw [isKept_of_rearranges h, table, ends', eq']
    rfl

end Coverage

namespace Fragment

theorem ofWords_of_perm (c : Cutting) {words others : List String} (perm : words.Perm others) :
    ofWords c words = ofWords c others := by
  refine Pool.eq_of_mem_iff fun e => ?_
  simp only [ofWords, Pool.mem_entries_ofKeys, List.mem_flatMap, perm.mem_iff]

end Fragment

namespace Score

open Coverage

variable {positives words : List String}

theorem simple_of_perm (fragments : List String) (perm : positives.Perm words) (m n : Nat) :
    simple (listing fragments positives) m = simple (listing fragments words) n := by
  simp only [simple_eq_ofList, listing, List.map_map, Function.comp_def, length_placesOf,
    perm.countP_eq]

theorem lists_listing {fragments positives : List String} {p : String → Bool} {word : String}
    {k : Nat} :
    (WordIndex.ofTable (listing fragments positives) positives (positives.map p)).Lists word k ↔
      ∃ f, fragments[k]? = some f ∧ word ∈ positives ∧ p word ∧ accepts f word := by
  rw [WordIndex.lists_ofTable]
  simp only [listing, List.getElem?_map, Option.map_eq_some_iff]
  constructor
  · rintro ⟨_, ⟨f, place, rfl⟩, i, hit, isOpen, named⟩
    obtain ⟨w, there, accepted⟩ := mem_placesOf.1 hit
    obtain ⟨w', there', waits⟩ := Open.has_map.1 isOpen
    rw [there] at there'
    cases there'
    rw [List.getD_eq_getElem?_getD, there, Option.getD_some] at named
    subst named
    exact ⟨f, place, List.mem_of_getElem? there, waits, accepted⟩
  · rintro ⟨f, place, member, waits, accepted⟩
    obtain ⟨i, there⟩ := List.mem_iff_getElem?.1 member
    refine ⟨_, ⟨f, place, rfl⟩, i, mem_placesOf.2 ⟨word, there, accepted⟩,
      Open.has_map.2 ⟨word, there, waits⟩, ?_⟩
    rw [List.getD_eq_getElem?_getD, there, Option.getD_some]

theorem ofTable_of_perm (fragments : List String) (perm : positives.Perm words)
    (p : String → Bool) :
    WordIndex.ofTable (listing fragments positives) positives (positives.map p) =
      WordIndex.ofTable (listing fragments words) words (words.map p) := by
  refine WordIndex.ofTable_eq_of_lists fun word k => ?_
  rw [lists_listing, lists_listing, perm.mem_iff]

theorem coverages_of_perm (fragments : List String) (perm : positives.Perm words)
    (p : String → Bool) :
    ((listing fragments positives).map fun e => Open.count (positives.map p) e.hits) =
      (listing fragments words).map fun e => Open.count (words.map p) e.hits := by
  simp only [listing, List.map_map, Function.comp_def, Open.count_placesOf, perm.countP_eq]

theorem size_of_perm (perm : positives.Perm words) (p : String → Bool) :
    Open.size (positives.map p) = Open.size (words.map p) := by
  rw [Open.size_map, Open.size_map, perm.countP_eq]

namespace Weighted

/-- What two rearranged passes have in common between two rounds. The open positives are told by
their words. -/
structure Course where
  waits : String → Bool
  alternation : List String
  picks : List Pick
  matcher : Matcher

def Course.toProgress (c : Course) (positives : List String) : Progress :=
  ⟨positives.map c.waits, c.alternation, c.picks, c.matcher⟩

theorem round_of_perm (fragments : List String) (perm : positives.Perm words) (c : Course) :
    (round (listing fragments positives) positives (c.toProgress positives) = none ∧
        round (listing fragments words) words (c.toProgress words) = none) ∨
      (∃ e,
        round (listing fragments positives) positives (c.toProgress positives) =
            some (.error e) ∧
          round (listing fragments words) words (c.toProgress words) = some (.error e)) ∨
      ∃ next : Course,
        round (listing fragments positives) positives (c.toProgress positives) =
            some (.ok (next.toProgress positives)) ∧
          round (listing fragments words) words (c.toProgress words) =
            some (.ok (next.toProgress words)) := by
  have named : ∀ k : Nat, ((listing fragments positives)[k]?.map fun e => e.fragment) =
      (listing fragments words)[k]?.map fun e => e.fragment := by
    simp [listing, Function.comp_def]
  -- Coverages, index and names are all that a round reads of the table.
  simp only [round, Course.toProgress, named, coverages_of_perm fragments perm,
    ofTable_of_perm fragments perm]
  split
  · exact .inl ⟨rfl, rfl⟩
  · split
    · exact .inr (.inl ⟨_, rfl, rfl⟩)
    · rename_i r m _
      exact .inr (.inr ⟨⟨fun w => !r.isMatch w, _, _, m⟩, rfl, by
        simp only [size_of_perm perm]⟩)

theorem play_of_perm (fragments : List String) (perm : positives.Perm words) (rounds : Nat)
    (c : Course) :
    play (listing fragments positives) positives rounds (c.toProgress positives) =
      play (listing fragments words) words rounds (c.toProgress words) := by
  have size : (c.toProgress positives).free.size = (c.toProgress words).free.size :=
    size_of_perm perm c.waits
  have picks : (c.toProgress positives).picks = (c.toProgress words).picks := rfl
  have matcher : (c.toProgress positives).matcher = (c.toProgress words).matcher := rfl
  by_cases done : (c.toProgress words).free.size = 0
  · rw [play_of_size_eq_zero done, play_of_size_eq_zero (size.trans done), picks, matcher]
  · have waits : (c.toProgress positives).free.size ≠ 0 := size ▸ done
    rcases round_of_perm fragments perm c with
      ⟨first, second⟩ | ⟨e, first, second⟩ | ⟨next, first, second⟩
    · rw [play_of_round_eq_none waits first, play_of_round_eq_none done second, size, picks, matcher]
    · rw [play_of_round_error waits first, play_of_round_error done second]
    · cases rounds with
      | zero =>
        rw [play_zero_of_round waits first, play_zero_of_round done second, size, picks, matcher]
      | succ rounds =>
        rw [play_succ_of_round waits first, play_succ_of_round done second]
        exact play_of_perm fragments perm rounds next

end Weighted

theorem weighted_of_perm (fragments : List String) (perm : positives.Perm words) (m : Matcher) :
    weighted (listing fragments positives) positives m =
      weighted (listing fragments words) words m := by
  have start : ∀ l : List String, List.replicate l.length true = l.map fun _ => true := fun l =>
    List.map_const'.symm
  rw [weighted, weighted, start, start, perm.length_eq, length_listing, length_listing]
  exact Weighted.play_of_perm fragments perm _ ⟨fun _ => true, [], [], m⟩

end Score

namespace Cover

variable {positives words negatives others : List String}

theorem extend_of_perm (perm : positives.Perm words)
    (same : ∀ word, word ∈ negatives ↔ word ∈ others) {left rest : List String}
    (leaves : left.Perm rest) (found : Cover) (m : Matcher) (ranked : List (String × Nat)) :
    extend positives negatives left found m ranked = extend words others rest found m ranked := by
  induction ranked generalizing left rest found m with
  | nil => rfl
  | cons entry more ih =>
    have kept : ∀ r : Regex, (left.filter fun w => !r.isMatch w).Perm
        (rest.filter fun w => !r.isMatch w) := fun r => leaves.filter _
    simp only [extend, Matcher.contains_of_perm _ _ leaves same,
      Matcher.validate_of_perm _ _ perm same, (kept _).length_eq, ih leaves, ih (kept _)]

theorem build_of_perm (scored : Pool) (perm : positives.Perm words)
    (same : ∀ word, word ∈ negatives ↔ word ∈ others) (m : Matcher) :
    build scored positives negatives m = build scored words others m :=
  extend_of_perm perm same perm [] m scored.ranked

end Cover

theorem Synthesis.score_of_perm (strategy : Strategy) (fragments : List String)
    {positives words : List String} (perm : positives.Perm words) (m : Matcher) :
    score strategy (Coverage.listing fragments positives) positives m =
      score strategy (Coverage.listing fragments words) words m := by
  cases strategy with
  | weighted => rw [score, score, Score.weighted_of_perm fragments perm]
  | simple => rw [score, score, Score.simple_of_perm fragments perm]

theorem Synthesis.run_of_rearranges {a b : WordLists} (h : a.Rearranges b) (options : Options) :
    run a options = run b options := by
  rw [run, run, Fragment.ofWords_of_perm options.cutting h.positives]
  rcases Coverage.table_of_rearranges h
      (Fragment.expand (Fragment.ofWords options.cutting b.positives)) with
    ⟨e, first, second⟩ | ⟨fragments, first, second⟩
  · rw [first, second]
    rfl
  · simp only [first, second, bind, Except.bind, Coverage.length_listing,
      score_of_perm _ fragments h.positives, Cover.build_of_perm _ h.positives h.negatives,
      Matcher.validate_of_perm _ _ h.positives h.negatives]

namespace WordLists

theorem perm_disjoint {positives words negatives others : List String}
    (same : ∀ word, (word ∈ negatives ∧ word ∉ positives) ↔ (word ∈ others ∧ word ∉ words)) :
    (disjoint positives negatives).Perm (disjoint words others) := by
  refine (List.perm_ext_iff_of_nodup (nodup_keepNew _ _) (nodup_keepNew _ _)).2 fun word => ?_
  rw [mem_keepNew, mem_keepNew, same]

end WordLists

/-- What a solution tells. Of the lists it tells the sizes alone. -/
structure Findings where
  pattern : String
  candidates : List (String × Nat)
  positives : Nat
  negatives : Nat
  strategy : Strategy
  synthesis : Synthesis

def Solution.findings (s : Solution) : Findings :=
  ⟨s.pattern, s.candidates, s.lists.positives.length, s.lists.negatives.length, s.strategy,
    s.synthesis⟩

/-- Two searches end alike if their positive lines are the same up to order, and if the same lines
are negative and not positive. -/
theorem solve_findings_of_perm (positive negative positive' negative' : String) (options : Options)
    (hp : positive ≠ "") (hn : negative ≠ "") (hp' : positive' ≠ "") (hn' : negative' ≠ "")
    (perm : (Text.Lines.split positive).Perm (Text.Lines.split positive'))
    (same : ∀ line,
      (line ∈ Text.Lines.split negative ∧ line ∉ Text.Lines.split positive) ↔
        (line ∈ Text.Lines.split negative' ∧ line ∉ Text.Lines.split positive')) :
    (solve positive negative options).map Solution.findings =
      (solve positive' negative' options).map Solution.findings := by
  have others := WordLists.perm_disjoint same
  have rearranged : (WordLists.ofLines positive negative).Rearranges
      (WordLists.ofLines positive' negative') := ⟨perm, fun word => others.mem_iff⟩
  have runs := Synthesis.run_of_rearranges rearranged options
  cases ends : Synthesis.run (.ofLines positive negative) options with
  | error e =>
    rw [solve_of_fault hp hn ends, solve_of_fault hp' hn' (runs ▸ ends)]
  | ok s =>
    rw [solve_of_run hp hn ends, solve_of_run hp' hn' (runs ▸ ends)]
    split
    · simp only [Except.map, Solution.findings, Solution.pattern, Solution.candidates,
        WordLists.ofLines, perm.length_eq, others.length_eq]
    · rfl

theorem solve_findings_of_perm_letters :
    (solve "ab\nb\nab" "c\nb" {}).map Solution.findings =
      (solve "b\nab\r\nab\n" "ab\nc\nc" {}).map Solution.findings := by
  have first : Text.Lines.split "ab\nb\nab" = ["ab", "b", "ab"] := by decide +kernel
  have second : Text.Lines.split "b\nab\r\nab\n" = ["b", "ab", "ab"] := by decide +kernel
  have third : Text.Lines.split "c\nb" = ["c", "b"] := by decide +kernel
  have fourth : Text.Lines.split "ab\nc\nc" = ["ab", "c", "c"] := by decide +kernel
  refine solve_findings_of_perm _ _ _ _ {} (by decide) (by decide) (by decide) (by decide) ?_ ?_
  · rw [first, second]
    decide
  · rw [first, second, third, fourth]
    simp
    grind

end RegexGolf
