import Mathlib.Data.List.Induction
import RegexGolf.Proofs.OpenPlaces

/-!
Simple scores are match counts. Whatever is open when an entry is scored, the places that it closes
are its own, so that none of them is left to count twice. So the score of a fragment is the number
of hits of its last entry, and no entry further up bears on it; on the table of a pool it is the
number of positives that the fragment matches, in whatever order the entries stand.
-/

namespace RegexGolf.Score

open Regex

def retire (free : Open) (e : Coverage) : Open :=
  if e.hits.any free.has then free.close e.hits else free

/-- What an entry scores beyond the number of its hits. -/
def bonus (free : Open) (e : Coverage) : Nat :=
  if e.hits.any free.has then (retire free e).count e.hits else 0

theorem bonus_eq_zero (free : Open) (e : Coverage) : bonus free e = 0 := by
  unfold bonus retire
  split
  · exact Open.count_close free e.hits
  · rfl

theorem length_retire (free : Open) (e : Coverage) : (retire free e).length = free.length := by
  unfold retire
  split
  · exact Open.length_close free e.hits
  · rfl

def openAfter (positives : Nat) (table : CoverageTable) : Open :=
  table.foldl retire (List.replicate positives true)

theorem openAfter_append_singleton (positives : Nat) (table : CoverageTable) (e : Coverage) :
    openAfter positives (table ++ [e]) = retire (openAfter positives table) e := by
  rw [openAfter, List.foldl_append]
  rfl

theorem length_openAfter (positives : Nat) (table : CoverageTable) :
    (openAfter positives table).length = positives := by
  induction table using List.reverseRecOn with
  | nil => exact List.length_replicate
  | append_singleton rest e ih => rw [openAfter_append_singleton, length_retire, ih]

theorem simpleFrom_cons (free : Open) (e : Coverage) (rest : CoverageTable) :
    simpleFrom free (e :: rest) =
      (e.fragment, e.hits.length + bonus free e) :: simpleFrom (retire free e) rest := by
  rw [simpleFrom]
  split
  · rename_i hit
    simp only [bonus, retire, if_pos hit]
  · rename_i missed
    simp only [bonus, retire, if_neg missed, Nat.add_zero]

theorem simpleFrom_append (free : Open) (earlier later : CoverageTable) :
    simpleFrom free (earlier ++ later) =
      simpleFrom free earlier ++ simpleFrom (earlier.foldl retire free) later := by
  induction earlier generalizing free with
  | nil => rfl
  | cons e rest ih =>
    rw [List.cons_append, simpleFrom_cons, simpleFrom_cons, ih, List.cons_append, List.foldl_cons]

theorem simpleFrom_eq_map (free : Open) (table : CoverageTable) :
    simpleFrom free table = table.map fun e => (e.fragment, e.hits.length) := by
  induction table generalizing free with
  | nil => rfl
  | cons e rest ih => rw [simpleFrom_cons, bonus_eq_zero, Nat.add_zero, ih, List.map_cons]

theorem simple_eq_ofList (table : CoverageTable) (positives : Nat) :
    simple table positives = .ofList (table.map fun e => (e.fragment, e.hits.length)) := by
  rw [simple, simpleFrom_eq_map]

theorem lookup_map_entries (table : CoverageTable) (fragment : String) :
    (table.map fun e => (e.fragment, e.hits.length)).lookup fragment =
      (table.find? (·.fragment == fragment)).map (·.hits.length) := by
  induction table with
  | nil => rfl
  | cons e rest ih =>
    by_cases same : fragment = e.fragment
    · simp [same]
    · have other : (fragment == e.fragment) = false := beq_false_of_ne same
      simp [List.lookup_cons, other, Ne.symm same, ih]

theorem score?_simple (table : CoverageTable) (positives : Nat) (fragment : String) :
    (simple table positives).score? fragment =
      (table.reverse.find? (·.fragment == fragment)).map (·.hits.length) := by
  rw [simple_eq_ofList, Pool.score?_ofList, ← List.map_reverse, lookup_map_entries]

section

variable {table : CoverageTable} {positives negatives : List String}
  (truth : Coverage.Truthful table positives negatives)

include truth

theorem score?_simple_of_truthful (fragment : String) :
    (simple table positives.length).score? fragment =
      if fragment ∈ table.map (·.fragment) then some (positives.countP (accepts fragment))
      else none := by
  rw [score?_simple]
  cases found : table.reverse.find? (·.fragment == fragment) with
  | none =>
    have absent : fragment ∉ table.map (·.fragment) := by simpa using found
    rw [if_neg absent, Option.map_none]
  | some e =>
    have listed : e ∈ table := List.mem_reverse.1 (List.mem_of_find?_eq_some found)
    have named : e.fragment = fragment := by simpa using List.find?_some found
    rw [← named, if_pos (List.mem_map_of_mem listed), Option.map_some, truth.hits e listed,
      Coverage.length_placesOf]

theorem simple_eq_of_perm {other : CoverageTable} (perm : other.Perm table) :
    simple other positives.length = simple table positives.length := by
  have truth' : Coverage.Truthful other positives negatives :=
    ⟨fun e listed => truth.kept e (perm.mem_iff.1 listed),
      fun e listed => truth.hits e (perm.mem_iff.1 listed), (perm.map _).nodup_iff.2 truth.once⟩
  refine Pool.eq_of_score?_eq fun fragment => ?_
  simp only [score?_simple_of_truthful truth', score?_simple_of_truthful truth,
    (perm.map _).mem_iff]

end

/-- What simple scoring comes to. Before every entry each of its hits has a flag, and the entry
scores nothing beyond its hits; what stays of all entries for a fragment is the number of hits of
the last. On the table of a pool these are the match counts. -/
theorem simple_counts_hits (table : CoverageTable) (positives : List String)
    (inside : ∀ e ∈ table, ∀ i ∈ e.hits, i < positives.length) :
    (∀ earlier e later, table = earlier ++ e :: later →
      (∀ i ∈ e.hits, i < (openAfter positives.length earlier).length) ∧
      bonus (openAfter positives.length earlier) e = 0 ∧
      simpleFrom (openAfter positives.length []) table =
        simpleFrom (openAfter positives.length []) earlier ++
          (e.fragment, e.hits.length + bonus (openAfter positives.length earlier) e) ::
            simpleFrom (openAfter positives.length (earlier ++ [e])) later) ∧
    (∀ fragment, (simple table positives.length).score? fragment =
      (table.reverse.find? (·.fragment == fragment)).map (·.hits.length)) ∧
    ∀ pool negatives t, Coverage.table pool positives negatives = .ok t →
      (∀ fragment, (simple t positives.length).score? fragment =
        if fragment ∈ t.map (·.fragment) then some (positives.countP (accepts fragment))
        else none) ∧
      ∀ other : CoverageTable, other.Perm t →
        simple other positives.length = simple t positives.length := by
  refine ⟨fun earlier e later split => ⟨fun i hit => ?_, bonus_eq_zero _ e, ?_⟩,
    score?_simple table positives.length, fun pool negatives t built => ?_⟩
  · rw [length_openAfter]
    exact inside e (by simp [split]) i hit
  · rw [split, simpleFrom_append, simpleFrom_cons, openAfter_append_singleton]
    rfl
  · have truth := Coverage.truthful_table built
    exact ⟨score?_simple_of_truthful truth, fun other perm => simple_eq_of_perm truth perm⟩

theorem simple_counts_hits_repeated :
    (simple [⟨"a", [1, 0, 0]⟩, ⟨"b", [1]⟩, ⟨"a", [2, 1]⟩] 3).score? "a" = some 2 ∧
      (simple [⟨"b", [0, 1, 2]⟩, ⟨"a", [0, 1]⟩] 3).score? "a" = some 2 := by
  have built : Coverage.table ⟨[("a", 0), ("b", 0)], by decide⟩ ["ab", "ab", "b"] ["c"] =
      .ok [⟨"a", [0, 1]⟩, ⟨"b", [0, 1, 2]⟩] := rfl
  obtain ⟨-, last, counts⟩ := simple_counts_hits
    [⟨"a", [1, 0, 0]⟩, ⟨"b", [1]⟩, ⟨"a", [2, 1]⟩] ["ab", "ab", "b"] (by decide)
  obtain ⟨matched, reordered⟩ := counts _ _ _ built
  refine ⟨last "a", ?_⟩
  have again := reordered [⟨"b", [0, 1, 2]⟩, ⟨"a", [0, 1]⟩] (.swap _ _ _)
  exact (congrArg (Pool.score? · "a") again).trans ((matched "a").trans rfl)

end RegexGolf.Score
