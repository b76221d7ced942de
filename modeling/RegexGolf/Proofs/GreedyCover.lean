import Mathlib.Data.Finset.Card
import RegexGolf.Cover
import RegexGolf.Proofs.Stages
import RegexGolf.Proofs.Union

/-!
Building a cover is a scan. The scan tries all fragments in turn and looks at each on its own; it
never judges the pattern so far. Stopping at the first valid pattern gives the same parts, for once
every positive is matched there is nothing left that a fragment could be kept for. From the scan it
is plain what the parts match: every word that some fragment matches which spares the negatives.
-/

namespace RegexGolf.Cover

open Regex Alternation

/-- The parts that are kept, given the words left: a fragment is kept if it matches one of them and
no negative. -/
def scan (negatives : List String) : List String → List (String × Nat) → Cover
  | _, [] => []
  | left, (fragment, score) :: rest =>
    if left.any (accepts fragment) && !negatives.any (accepts fragment) then
      ⟨fragment, score, (left.filter fun w => !accepts fragment w).length⟩ ::
        scan negatives (left.filter fun w => !accepts fragment w) rest
    else scan negatives left rest

def fragments (c : Cover) : List String := c.map (·.fragment)

section

variable {negatives left : List String} {fragment : String} {score : Nat}
  {rest ranked : List (String × Nat)}

theorem isKept_iff :
    (left.any (accepts fragment) && !negatives.any (accepts fragment)) = true ↔
      (∃ w ∈ left, accepts fragment w) ∧ ∀ n ∈ negatives, ¬accepts fragment n := by
  simp

theorem scan_of_kept
    (kept : left.any (accepts fragment) && !negatives.any (accepts fragment)) :
    scan negatives left ((fragment, score) :: rest) =
      ⟨fragment, score, (left.filter fun w => !accepts fragment w).length⟩ ::
        scan negatives (left.filter fun w => !accepts fragment w) rest := by
  rw [scan, if_pos kept]

theorem scan_of_not_kept
    (passed : ¬(left.any (accepts fragment) && !negatives.any (accepts fragment))) :
    scan negatives left ((fragment, score) :: rest) = scan negatives left rest := by
  rw [scan, if_neg passed]

theorem scan_nil_left (ranked : List (String × Nat)) : scan negatives [] ranked = [] := by
  induction ranked with
  | nil => rfl
  | cons e rest ih =>
    rw [← ih]
    exact scan_of_not_kept (by simp)

theorem sublist_scan (negatives left : List String) (ranked : List (String × Nat)) :
    ((scan negatives left ranked).map fun p => (p.fragment, p.score)).Sublist ranked := by
  induction ranked generalizing left with
  | nil => exact .slnil
  | cons e rest ih =>
    obtain ⟨fragment, score⟩ := e
    by_cases kept : left.any (accepts fragment) && !negatives.any (accepts fragment)
    · rw [scan_of_kept kept]
      exact (ih _).cons_cons _
    · rw [scan_of_not_kept kept]
      exact (ih left).cons _

theorem sublist_fragments_scan (negatives left : List String) (ranked : List (String × Nat)) :
    (scan negatives left ranked).fragments.Sublist (ranked.map (·.1)) := by
  have := (sublist_scan negatives left ranked).map Prod.fst
  simpa [fragments, Function.comp_def] using this

theorem length_scan_le_card (negatives left : List String) (ranked : List (String × Nat)) :
    (scan negatives left ranked).length ≤ left.toFinset.card := by
  induction ranked generalizing left with
  | nil => simp [scan]
  | cons e rest ih =>
    obtain ⟨fragment, score⟩ := e
    by_cases kept : left.any (accepts fragment) && !negatives.any (accepts fragment)
    · obtain ⟨word, waits, accepted⟩ := (isKept_iff.1 kept).1
      have fewer : (left.filter fun w => !accepts fragment w).toFinset ⊂ left.toFinset := by
        rw [List.toFinset_filter, Finset.filter_ssubset]
        exact ⟨word, List.mem_toFinset.2 waits, by simpa using accepted⟩
      have smaller := Finset.card_lt_card fewer
      have remain := ih (left.filter fun w => !accepts fragment w)
      rw [scan_of_kept kept, List.length_cons]
      omega
    · rw [scan_of_not_kept kept]
      exact ih left

theorem length_scan_le (negatives left : List String) (ranked : List (String × Nat)) :
    (scan negatives left ranked).length ≤ left.length :=
  Nat.le_trans (length_scan_le_card negatives left ranked) left.toFinset_card_le

theorem covers_scan {word : String} (waits : word ∈ left) {e : String × Nat} (listed : e ∈ ranked)
    (spares : ∀ n ∈ negatives, ¬accepts e.1 n) (accepted : accepts e.1 word) :
    ∃ part ∈ scan negatives left ranked, accepts part.fragment word := by
  induction ranked generalizing left with
  | nil => simp at listed
  | cons d rest ih =>
    obtain ⟨fragment, score⟩ := d
    by_cases kept : left.any (accepts fragment) && !negatives.any (accepts fragment)
    · rw [scan_of_kept kept]
      by_cases now : accepts fragment word
      · exact ⟨_, .head _, now⟩
      · have stays : word ∈ left.filter fun w => !accepts fragment w :=
          List.mem_filter.2 ⟨waits, by simpa using now⟩
        rcases List.mem_cons.1 listed with rfl | listed
        · exact absurd accepted now
        · obtain ⟨part, member, taken⟩ := ih stays listed
          exact ⟨part, .tail _ member, taken⟩
    · rw [scan_of_not_kept kept]
      rcases List.mem_cons.1 listed with rfl | listed
      · exact absurd (isKept_iff.2 ⟨⟨word, waits, accepted⟩, spares⟩) kept
      · exact ih waits listed

end

section

variable {positives negatives left : List String} {found : Cover} {m : Matcher}
  {fragment : String} {score : Nat} {rest : List (String × Nat)} {r : Regex}

theorem extend_of_not_kept (positives : List String) (found : Cover) (score : Nat)
    (rest : List (String × Nat)) (h : m.Honest) (read : parse fragment = .ok r)
    (passed : ¬(left.any (accepts fragment) && !negatives.any (accepts fragment))) :
    ∃ m', m'.Honest ∧ extend positives negatives left found m ((fragment, score) :: rest) =
      extend positives negatives left found m' rest := by
  obtain ⟨m₁, h₁, useful⟩ := h.contains_of_parse read left negatives
  have same : r.isMatch = accepts fragment := funext fun w => (accepts_of_parse read w).symm
  rw [isContained, same, Bool.eq_false_iff.2 passed] at useful
  refine ⟨m₁, h₁, ?_⟩
  rw [extend, useful]
  rfl

theorem extend_of_kept (rest : List (String × Nat)) (h : m.Honest) (read : parse fragment = .ok r)
    (kept : left.any (accepts fragment) && !negatives.any (accepts fragment)) {next : List String}
    (next_eq : next = left.filter fun w => !accepts fragment w) {part : Part}
    (part_eq : part = ⟨fragment, score, next.length⟩) :
    ∃ m' : Matcher, m'.Honest ∧
      extend positives negatives left found m ((fragment, score) :: rest) =
        m'.validate (pattern (found ++ [part])) positives negatives >>= fun judged =>
          if judged.1 then .ok (found ++ [part], judged.2)
          else extend positives negatives next (found ++ [part]) judged.2 rest := by
  obtain ⟨m₁, h₁, useful⟩ := h.contains_of_parse read left negatives
  obtain ⟨m₂, h₂, again⟩ := h₁.regex_of_parse read
  have same : r.isMatch = accepts fragment := funext fun w => (accepts_of_parse read w).symm
  have remaining : left.filter (fun w => !r.isMatch w) = next := by rw [next_eq, same]
  rw [isContained, same, kept] at useful
  refine ⟨m₂, h₂, ?_⟩
  rw [extend, useful, part_eq]
  simp only [bind, Except.bind, if_true, again, remaining]
  rfl

end

variable {positives negatives : List String}

def unmatched (positives : List String) (c : Cover) : List String :=
  positives.filter fun w => !c.fragments.any (accepts · w)

theorem unmatched_append (c : Cover) (part : Part) :
    unmatched positives (c ++ [part]) =
      (unmatched positives c).filter fun w => !accepts part.fragment w := by
  simp only [unmatched, fragments, List.filter_filter, List.map_append, List.any_append,
    List.map_cons, List.map_nil, List.any_cons, List.any_nil, Bool.or_false, Bool.not_or,
    Bool.and_comm]

/-- If the parts found so far and those of the scan that is still to come make up a cover whose
alternations agree with their parts, that cover is what the search ends with. It fails only where
some of these parts cannot be united. -/
theorem extend_cases {pool : List String} (agrees : Agrees positives.length pool)
    {total : Cover} (once : total.fragments.Nodup) (few : total.length ≤ positives.length)
    (among : ∀ f ∈ total.fragments, f ∈ pool) {ranked : List (String × Nat)}
    (readable : ∀ e ∈ ranked, ∃ r, parse e.1 = .ok r) {found : Cover} {m : Matcher}
    (h : m.Honest) (whole : total = found ++ scan negatives (unmatched positives found) ranked) :
    (∃ m', m'.Honest ∧
      extend positives negatives (unmatched positives found) found m ranked = .ok (total, m')) ∨
    ∃ parts e, parts ≠ [] ∧ parts.Sublist total.fragments ∧ parse (join parts) = .error e ∧
      extend positives negatives (unmatched positives found) found m ranked = .error e := by
  induction ranked generalizing found m with
  | nil =>
    rw [scan, List.append_nil] at whole
    exact .inl ⟨m, h, by rw [extend, whole]⟩
  | cons e rest ih =>
    obtain ⟨fragment, score⟩ := e
    obtain ⟨r, read⟩ := readable _ (.head _)
    have others : ∀ d ∈ rest, ∃ r, parse d.1 = .ok r := fun d listed =>
      readable d (.tail _ listed)
    by_cases kept : (unmatched positives found).any (accepts fragment) &&
        !negatives.any (accepts fragment)
    · obtain ⟨part, part_eq⟩ : ∃ part : Part, part = ⟨fragment, score,
          ((unmatched positives found).filter fun w => !accepts fragment w).length⟩ := ⟨_, rfl⟩
      have left : unmatched positives (found ++ [part]) =
          (unmatched positives found).filter fun w => !accepts fragment w := by
        rw [unmatched_append, part_eq]
      have whole' : total =
          (found ++ [part]) ++ scan negatives (unmatched positives (found ++ [part])) rest := by
        rw [whole, scan_of_kept kept, ← part_eq, left, List.append_assoc, List.singleton_append]
      have inside : (found ++ [part]).Sublist total := by
        rw [whole']
        exact List.sublist_append_left _ _
      have some : (found ++ [part]).fragments ≠ [] := by simp [fragments]
      have counted : part = ⟨fragment, score, (unmatched positives (found ++ [part])).length⟩ := by
        rw [left]
        exact part_eq
      obtain ⟨m₁, h₁, step⟩ := extend_of_kept rest h read kept left counted
      rw [step]
      cases joined : parse (pattern (found ++ [part])) with
      | error e =>
        refine .inr ⟨_, e, some, inside.map _, joined, ?_⟩
        rw [Matcher.validate, h₁.regex_of_error joined]
        rfl
      | ok s =>
        have meaning := agrees (found ++ [part]).fragments some ((inside.map _).nodup once)
          (Nat.le_trans (by simpa [fragments] using inside.length_le) few)
          (fun f listed => among f ((inside.map _).mem listed)) s joined
        obtain ⟨m₂, h₂, judged⟩ := h₁.validate_of_parse joined positives negatives
        simp only [judged, bind, Except.bind]
        by_cases valid : s.validates positives negatives
        · have done : unmatched positives (found ++ [part]) = [] := by
            rw [unmatched, List.filter_eq_nil_iff]
            intro w listed
            rw [← meaning w, ((s.validates_iff positives negatives).1 valid).1 w listed]
            exact Bool.false_ne_true
          rw [done, scan_nil_left, List.append_nil] at whole'
          exact .inl ⟨m₂, h₂, by rw [if_pos valid, whole']⟩
        · rw [if_neg valid]
          exact ih others h₂ whole'
    · rw [scan_of_not_kept kept] at whole
      obtain ⟨m₁, h₁, step⟩ := extend_of_not_kept positives found score rest h read kept
      rw [step]
      exact ih others h₁ whole

theorem nodup_scan_ranked (negatives positives : List String) (scored : Pool) :
    (scan negatives positives scored.ranked).fragments.Nodup ∧
      ∀ f ∈ (scan negatives positives scored.ranked).fragments, f ∈ scored.keys := by
  have keys : (scored.ranked.map (·.1)).Perm scored.keys := scored.perm_ranked.map _
  have inside := sublist_fragments_scan negatives positives scored.ranked
  exact ⟨inside.nodup (keys.nodup_iff.2 scored.nodup_keys), fun f listed =>
    keys.mem_iff.1 (inside.mem listed)⟩

section

variable (negatives) (scored : Pool) (readable : ∀ f ∈ scored.keys, ∃ r, parse f = .ok r)

include readable

theorem build_cases (agrees : Agrees positives.length scored.keys) {m : Matcher} (h : m.Honest) :
    (∃ m', m'.Honest ∧ build scored positives negatives m =
      .ok (scan negatives positives scored.ranked, m')) ∨
    ∃ parts e, parts ≠ [] ∧
      parts.Sublist (scan negatives positives scored.ranked).fragments ∧
      parse (join parts) = .error e ∧ build scored positives negatives m = .error e := by
  have keys : (scored.ranked.map (·.1)).Perm scored.keys := scored.perm_ranked.map _
  have start : unmatched positives [] = positives := by simp [unmatched, fragments]
  have whole : scan negatives positives scored.ranked =
      [] ++ scan negatives (unmatched positives []) scored.ranked := by
    rw [start, List.nil_append]
  obtain ⟨once, among⟩ := nodup_scan_ranked negatives positives scored
  have search := extend_cases agrees once (length_scan_le negatives positives scored.ranked) among
    (fun e listed => readable e.1 (keys.mem_iff.1 (List.mem_map_of_mem listed))) h whole
  rwa [start] at search

theorem eq_scan_of_build (agrees : Agrees positives.length scored.keys) {m m' : Matcher}
    (h : m.Honest) {c : Cover} (built : build scored positives negatives m = .ok (c, m')) :
    c = scan negatives positives scored.ranked := by
  rcases build_cases negatives scored readable agrees h with
    ⟨_, -, ends⟩ | ⟨_, _, -, -, -, fails⟩
  · rw [ends] at built
    cases built
    rfl
  · rw [fails] at built
    cases built

theorem build_eq_scan (unites : Unites positives.length scored.keys) {m : Matcher}
    (h : m.Honest) :
    ∃ m', m'.Honest ∧
      build scored positives negatives m =
        .ok (scan negatives positives scored.ranked, m') := by
  rcases build_cases negatives scored readable unites.agrees h with
    ends | ⟨parts, e, some, inside, fails, -⟩
  · exact ends
  · obtain ⟨once, among⟩ := nodup_scan_ranked negatives positives scored
    have few := length_scan_le negatives positives scored.ranked
    rw [← List.length_map (f := Part.fragment), ← fragments] at few
    obtain ⟨r, read, -⟩ := unites parts some (inside.nodup once)
      (Nat.le_trans inside.length_le few) fun f listed => among f (inside.mem listed)
    rw [fails] at read
    cases read

end

end RegexGolf.Cover
