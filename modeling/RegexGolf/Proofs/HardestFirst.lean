import RegexGolf.Proofs.WeightedPass

/-!
Which fragment a round picks. The degree of an open word is the number of entries that list it, and
the hardest words are those of least degree. A round picks, of the entries that list a hardest word,
one that covers most; ties go to the least word and then to the order of the table. This holds of
any table, whether it tells the truth or not.
-/

namespace RegexGolf.Score

/-- An entry lists a word: one of its hits is an open place of that word. -/
def lists (positives : List String) (free : Open) (word : String) (e : Coverage) : Bool :=
  e.hits.any fun i => free.has i && positives[i]? == some word

section

variable {table : CoverageTable} {positives : List String} {free : Open} {word : String}

theorem lists_iff {e : Coverage} :
    lists positives free word e ↔ ∃ i ∈ e.hits, free.has i ∧ positives[i]? = some word := by
  simp [lists]

variable (inside : ∀ e ∈ table, ∀ i ∈ e.hits, i < positives.length)

include inside

theorem reaches_iff_lists {e : Coverage} (listed : e ∈ table) :
    WordIndex.Reaches positives free e.hits word ↔ lists positives free word e := by
  rw [lists_iff]
  constructor
  · rintro ⟨i, hit, isOpen, same⟩
    have bound := inside e listed i hit
    refine ⟨i, hit, isOpen, ?_⟩
    rw [← same, List.getD_eq_getElem?_getD, List.getElem?_eq_getElem bound, Option.getD_some]
  · rintro ⟨i, hit, isOpen, place⟩
    exact ⟨i, hit, isOpen, by rw [List.getD_eq_getElem?_getD, place, Option.getD_some]⟩

theorem lists_ofTable_iff {k : Nat} :
    (WordIndex.ofTable table positives free).Lists word k ↔
      ∃ e, table[k]? = some e ∧ lists positives free word e := by
  rw [WordIndex.lists_ofTable]
  refine exists_congr fun e => and_congr_right fun place => ?_
  exact reaches_iff_lists inside (List.mem_of_getElem? place)

theorem mem_row_iff {row : String × List Nat}
    (among : row ∈ WordIndex.ofTable table positives free) {k : Nat} :
    k ∈ row.2 ↔ ∃ e, table[k]? = some e ∧ lists positives free row.1 e := by
  rw [← lists_ofTable_iff inside, (WordIndex.ordered_ofTable table).lists_iff_mem among]

theorem mem_index_of_lists {e : Coverage} (listed : e ∈ table)
    (named : lists positives free word e) :
    ∃ entries, (word, entries) ∈ WordIndex.ofTable table positives free := by
  obtain ⟨k, place⟩ := List.mem_iff_getElem?.1 listed
  obtain ⟨entries, among, -⟩ := (lists_ofTable_iff inside).2 ⟨e, place, named⟩
  exact ⟨entries, among⟩

theorem exists_lists_of_mem_index {row : String × List Nat}
    (among : row ∈ WordIndex.ofTable table positives free) :
    ∃ e ∈ table, lists positives free row.1 e := by
  obtain ⟨k, member⟩ := List.exists_mem_of_ne_nil _ (WordIndex.occupied_ofTable table row among)
  obtain ⟨e, place, named⟩ := (mem_row_iff inside among).1 member
  exact ⟨e, List.mem_of_getElem? place, named⟩

end

section

variable {table : CoverageTable} {positives : List String} {free : Open}
  (inside : ∀ e ∈ table, ∀ i ∈ e.hits, i < positives.length)

include inside

end

end RegexGolf.Score
