import RegexGolf.Proofs.HardestFirst

/-!
The word index, told without how it is built. There is one row for each open word that the table
knows, and the row names every entry that lists the word once. This holds of any table, sorted or
not, with repeated hits and with words that stand at several places; only so is the length of a row
the number of fragments that can serve its word.
-/

namespace RegexGolf.Score

/-- An index of a table: its words are those that some entry lists, and the row of a word names the
entries that list it. Words and entries stand in increasing order, so that none stands twice. -/
structure IsIndex (table : CoverageTable) (positives : List String) (free : Open)
    (index : WordIndex) : Prop where
  words : index.Pairwise fun a b => a.1 < b.1
  mem_words : ∀ word, word ∈ index.map (·.1) ↔ ∃ e ∈ table, lists positives free word e
  increasing : ∀ row ∈ index, row.2.Pairwise (· < ·)
  mem_row : ∀ row ∈ index, ∀ k,
    k ∈ row.2 ↔ ∃ e, table[k]? = some e ∧ lists positives free row.1 e

namespace IsIndex

variable {table : CoverageTable} {positives : List String} {free : Open} {index other : WordIndex}

theorem ordered (h : IsIndex table positives free index) :
    index.Ordered (· < ·) table.length where
  words := h.words
  entries := h.increasing
  below row listed k member := by
    obtain ⟨e, place, -⟩ := (h.mem_row row listed k).1 member
    exact (List.getElem?_eq_some_iff.1 place).1

theorem occupied (h : IsIndex table positives free index) : index.Occupied := by
  intro row listed
  obtain ⟨e, among, named⟩ := (h.mem_words row.1).1 (List.mem_map_of_mem listed)
  obtain ⟨k, place⟩ := List.mem_iff_getElem?.1 among
  exact List.ne_nil_of_mem ((h.mem_row row listed k).2 ⟨e, place, named⟩)

theorem lists_iff (h : IsIndex table positives free index) {word : String} {k : Nat} :
    index.Lists word k ↔ ∃ e, table[k]? = some e ∧ lists positives free word e := by
  constructor
  · rintro ⟨entries, listed, member⟩
    exact (h.mem_row (word, entries) listed k).1 member
  · rintro ⟨e, place, named⟩
    obtain ⟨row, listed, rfl⟩ :=
      List.mem_map.1 ((h.mem_words word).2 ⟨e, List.mem_of_getElem? place, named⟩)
    exact ⟨row.2, listed, (h.mem_row row listed k).2 ⟨e, place, named⟩⟩

theorem unique (first : IsIndex table positives free index)
    (second : IsIndex table positives free other) : index = other :=
  WordIndex.eq_of_same_lists first.ordered second.ordered first.occupied second.occupied
    fun _ _ => first.lists_iff.trans second.lists_iff.symm

end IsIndex

section

variable {table : CoverageTable} {positives : List String} {free : Open}
  (inside : ∀ e ∈ table, ∀ i ∈ e.hits, i < positives.length)

include inside

theorem isIndex_ofTable :
    IsIndex table positives free (WordIndex.ofTable table positives free) where
  words := (WordIndex.ordered_ofTable table).words
  mem_words word := by
    constructor
    · intro known
      obtain ⟨row, listed, rfl⟩ := List.mem_map.1 known
      exact exists_lists_of_mem_index inside listed
    · rintro ⟨e, among, named⟩
      obtain ⟨entries, listed⟩ := mem_index_of_lists inside among named
      exact List.mem_map_of_mem listed
  increasing := (WordIndex.ordered_ofTable table).entries
  mem_row row listed k := mem_row_iff inside listed

end

/-- The index that is built is the index of the table, whatever the table is like, and the hardest
words are picked out of it by the length of their rows alone. -/
theorem ofTable_indexes (table : CoverageTable) (positives : List String) (free : Open)
    (inside : ∀ e ∈ table, ∀ i ∈ e.hits, i < positives.length) :
    let built := WordIndex.ofTable table positives free
    (∀ index, IsIndex table positives free index ↔ index = built) ∧
    built.hardest = built.filter (fun row => ∀ other ∈ built, row.2.length ≤ other.2.length) ∧
    (built.hardest = [] ↔ built = []) := by
  intro built
  refine ⟨fun index => ⟨fun told => ?_, ?_⟩, built.hardest_eq_filter, WordIndex.hardest_eq_nil_iff⟩
  · exact told.unique (isIndex_ofTable inside)
  · rintro rfl
    exact isIndex_ofTable inside

theorem ofTable_indexes_repeated :
    let table : CoverageTable := [⟨"x", [2, 0, 2]⟩, ⟨"y", [1, 0, 1]⟩, ⟨"z", [3, 2]⟩]
    IsIndex table ["b", "a", "b", "c"] [true, true, true, false] [("a", [1]), ("b", [0, 1, 2])] ∧
      (WordIndex.ofTable table ["b", "a", "b", "c"] [true, true, true, false]).hardest ≠ [] := by
  intro table
  obtain ⟨index, -, none⟩ :=
    ofTable_indexes table ["b", "a", "b", "c"] [true, true, true, false] (by decide)
  exact ⟨(index _).2 (by decide), mt none.1 (by decide)⟩

end RegexGolf.Score
