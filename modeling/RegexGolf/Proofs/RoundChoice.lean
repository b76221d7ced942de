import RegexGolf.Proofs.OpenPlaces
import RegexGolf.Proofs.WordIndex
import RegexGolf.Score.Weighted

/-!
What a round chooses. Of the entries that are listed for the hardest words it takes the first that
covers most; each of them covers something, so that nothing is chosen only if no entry of the table
hits an open place.
-/

namespace RegexGolf.Score.Weighted

/-- The choice from some entries: the first that covers most, if any covers something. -/
def IsChoice (coverages : Array Nat) (entries : List Nat) : Option Choice → Prop
  | none => ∀ k ∈ entries, coverages.getD k 0 = 0
  | some c => 0 < c.coverage ∧ coverages.getD c.entry 0 = c.coverage ∧
      ∃ before after, entries = before ++ c.entry :: after ∧
        (∀ k ∈ before, coverages.getD k 0 < c.coverage) ∧
        ∀ k ∈ after, coverages.getD k 0 ≤ c.coverage

theorem better_none (coverages : Array Nat) (k : Nat) :
    better coverages none k =
      if 0 < coverages.getD k 0 then some ⟨k, coverages.getD k 0⟩ else none := rfl

theorem better_some (coverages : Array Nat) (c : Choice) (k : Nat) :
    better coverages (some c) k =
      if c.coverage < coverages.getD k 0 then some ⟨k, coverages.getD k 0⟩ else some c := rfl

theorem isChoice_better {coverages : Array Nat} {entries : List Nat} {chosen : Option Choice}
    (h : IsChoice coverages entries chosen) (k : Nat) :
    IsChoice coverages (entries ++ [k]) (better coverages chosen k) := by
  cases chosen with
  | none =>
    rw [better_none]
    by_cases covers : 0 < coverages.getD k 0
    · rw [if_pos covers]
      exact ⟨covers, rfl, entries, [], rfl, fun j listed => by rw [h j listed]; exact covers,
        by simp⟩
    · rw [if_neg covers]
      intro j listed
      rcases List.mem_append.1 listed with listed | listed
      · exact h j listed
      · rw [List.mem_singleton.1 listed]
        omega
  | some c =>
    obtain ⟨positive, value, before, after, rfl, less, atMost⟩ := h
    rw [better_some]
    by_cases more : c.coverage < coverages.getD k 0
    · rw [if_pos more]
      refine ⟨Nat.lt_trans positive more, rfl, before ++ c.entry :: after, [], rfl,
        fun j listed => ?_, by simp⟩
      rcases List.mem_append.1 listed with listed | listed
      · exact Nat.lt_trans (less j listed) more
      · rcases List.mem_cons.1 listed with rfl | listed
        · rw [value]
          exact more
        · exact Nat.lt_of_le_of_lt (atMost j listed) more
    · rw [if_neg more]
      refine ⟨positive, value, before, after ++ [k], by simp, less, fun j listed => ?_⟩
      rcases List.mem_append.1 listed with listed | listed
      · exact atMost j listed
      · rw [List.mem_singleton.1 listed]
        omega

theorem isChoice_foldl {coverages : Array Nat} {seen : List Nat} {chosen : Option Choice}
    (h : IsChoice coverages seen chosen) (entries : List Nat) :
    IsChoice coverages (seen ++ entries) (entries.foldl (better coverages) chosen) := by
  induction entries generalizing seen chosen with
  | nil => simpa using h
  | cons k rest ih => simpa using ih (isChoice_better h k)

theorem isChoice_none (coverages : Array Nat) : IsChoice coverages [] none := by
  simp [IsChoice]

theorem isChoice_choose (coverages : Array Nat) (hardest : WordIndex) :
    IsChoice coverages (hardest.flatMap (·.2)) (choose coverages hardest) :=
  isChoice_foldl (isChoice_none coverages) _

variable {table : CoverageTable} {positives : List String} {free : Open}

theorem getD_coverages {k : Nat} {e : Coverage} (place : table[k]? = some e) :
    (table.map fun e => free.count e.hits).toArray.getD k 0 = free.count e.hits := by
  simp [Array.getD_eq_getD_getElem?, place]

theorem covers_of_mem_hardest {k : Nat}
    (listed : k ∈ (WordIndex.ofTable table positives free).hardest.flatMap (·.2)) :
    ∃ e, table[k]? = some e ∧ 0 < free.count e.hits := by
  obtain ⟨row, among, member⟩ := List.mem_flatMap.1 listed
  have under : (WordIndex.ofTable table positives free).Lists row.1 k :=
    ⟨row.2, WordIndex.mem_of_mem_hardest among, member⟩
  obtain ⟨e, place, i, hit, isOpen, -⟩ := WordIndex.lists_ofTable.1 under
  exact ⟨e, place, Open.count_pos.2 ⟨i, hit, isOpen⟩⟩

theorem not_has_of_choose_eq_none
    (nothing : choose (table.map fun e => free.count e.hits).toArray
      (WordIndex.ofTable table positives free).hardest = none) :
    ∀ e ∈ table, ∀ i ∈ e.hits, ¬free.has i := by
  have covers := isChoice_choose (table.map fun e => free.count e.hits).toArray
    (WordIndex.ofTable table positives free).hardest
  rw [nothing] at covers
  have empty : (WordIndex.ofTable table positives free).hardest = [] := by
    rw [List.eq_nil_iff_forall_not_mem]
    intro row among
    have own := WordIndex.occupied_ofTable table row (WordIndex.mem_of_mem_hardest among)
    obtain ⟨k, member⟩ := List.exists_mem_of_ne_nil row.2 own
    have listed := List.mem_flatMap.2 ⟨row, among, member⟩
    obtain ⟨e, place, positive⟩ := covers_of_mem_hardest listed
    have zero := covers k listed
    rw [getD_coverages place] at zero
    omega
  intro e listed i hit isOpen
  obtain ⟨k, place⟩ := List.mem_iff_getElem?.1 listed
  have under : (WordIndex.ofTable table positives free).Lists (positives.getD i "") k :=
    WordIndex.lists_ofTable.2 ⟨e, place, i, hit, isOpen, rfl⟩
  rw [WordIndex.hardest_eq_nil_iff.1 empty] at under
  obtain ⟨_, among, _⟩ := under
  simp at among

theorem mem_of_choose_eq_some {c : Choice}
    (chosen : choose (table.map fun e => free.count e.hits).toArray
      (WordIndex.ofTable table positives free).hardest = some c) :
    ∃ e ∈ table, table[c.entry]? = some e ∧ c.coverage = free.count e.hits ∧
      0 < c.coverage := by
  have choice := isChoice_choose (table.map fun e => free.count e.hits).toArray
    (WordIndex.ofTable table positives free).hardest
  rw [chosen] at choice
  obtain ⟨positive, value, before, after, split, -, -⟩ := choice
  have listed : c.entry ∈ (WordIndex.ofTable table positives free).hardest.flatMap (·.2) := by
    rw [split]
    simp
  obtain ⟨e, place, -⟩ := covers_of_mem_hardest listed
  rw [getD_coverages place] at value
  exact ⟨e, List.mem_of_getElem? place, place, value.symm, positive⟩

section

variable {p : Progress}

theorem round_eq_none_iff :
    round table positives p = none ↔
      choose (table.map fun e => p.free.count e.hits).toArray
        (WordIndex.ofTable table positives p.free).hardest = none := by
  cases chosen : choose (table.map fun e => p.free.count e.hits).toArray
      (WordIndex.ofTable table positives p.free).hardest with
  | none => simp only [round, chosen]
  | some c =>
    simp only [round, chosen, reduceCtorEq, iff_false]
    split <;> simp

theorem round_of_choose {c : Choice} {e : Coverage}
    (chosen : choose (table.map fun e => p.free.count e.hits).toArray
      (WordIndex.ofTable table positives p.free).hardest = some c)
    (place : table[c.entry]? = some e) :
    round table positives p =
      some ((p.matcher.regex (Alternation.join (e.fragment :: p.alternation))).map fun read =>
        let left : Open := positives.map fun word => !read.1.isMatch word
        let hardest := (WordIndex.ofTable table positives p.free).hardest
        ⟨left, e.fragment :: p.alternation,
          ⟨e.fragment, c.coverage, hardest.length, hardest.head?.elim 0 fun row => row.2.length,
            left.size⟩ :: p.picks, read.2⟩) := by
  simp only [round, chosen, place, Option.map_some, Option.getD_some]
  cases p.matcher.regex (Alternation.join (e.fragment :: p.alternation)) <;> rfl

end

end RegexGolf.Score.Weighted
