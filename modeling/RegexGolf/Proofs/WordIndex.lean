import Mathlib.Data.List.Sort
import RegexGolf.Score.WordIndex

/-!
What the word index lists. An entry of the table stands under a word exactly if one of its hits is
an open place of that word; so the index is empty exactly if no entry hits an open place. The words
and the entries of each word stand in increasing order, so that an index is settled by what it
lists.
-/

namespace RegexGolf.Score

namespace WordIndex

def Lists (index : WordIndex) (word : String) (entry : Nat) : Prop :=
  ∃ entries, (word, entries) ∈ index ∧ entry ∈ entries

def Occupied (index : WordIndex) : Prop := ∀ e ∈ index, e.2 ≠ []

theorem lists_cons {w : String} {entries : List Nat} {rest : WordIndex} {word : String}
    {entry : Nat} :
    Lists ((w, entries) :: rest) word entry ↔
      word = w ∧ entry ∈ entries ∨ rest.Lists word entry := by
  constructor
  · rintro ⟨listed, place, member⟩
    rcases List.mem_cons.1 place with eq | place
    · rw [Prod.mk.injEq] at eq
      exact .inl ⟨eq.1, eq.2 ▸ member⟩
    · exact .inr ⟨listed, place, member⟩
  · rintro (⟨rfl, member⟩ | ⟨listed, place, member⟩)
    · exact ⟨entries, .head _, member⟩
    · exact ⟨listed, .tail _ place, member⟩

theorem lists_note {index : WordIndex} {w word : String} {k entry : Nat} :
    (note w k index).Lists word entry ↔ word = w ∧ entry = k ∨ index.Lists word entry := by
  induction index with
  | nil =>
    rw [note, lists_cons, List.mem_singleton]
  | cons e rest ih =>
    obtain ⟨v, entries⟩ := e
    rw [note]
    split
    · rw [lists_cons, List.mem_singleton]
    · split
      · rename_i same
        subst same
        rw [lists_cons, lists_cons]
        split
        · rename_i first
          have old : k ∈ entries := List.mem_of_head? first
          constructor
          · exact .inr
          · rintro (⟨rfl, rfl⟩ | listed)
            · exact .inl ⟨rfl, old⟩
            · exact listed
        · simp only [List.mem_cons]
          grind
      · rw [lists_cons, lists_cons, ih]
        grind

theorem occupied_note {index : WordIndex} (h : index.Occupied) (w : String) (k : Nat) :
    (note w k index).Occupied := by
  induction index with
  | nil => simp [note, Occupied]
  | cons e rest ih =>
    obtain ⟨v, entries⟩ := e
    have others : Occupied rest := fun d listed => h d (.tail _ listed)
    have own : entries ≠ [] := h (v, entries) (.head _)
    rw [note]
    intro d listed
    split at listed
    · rcases List.mem_cons.1 listed with rfl | listed
      · simp
      · exact h d listed
    · split at listed
      · rcases List.mem_cons.1 listed with rfl | listed
        · dsimp only
          split
          · exact own
          · simp
        · exact others d listed
      · rcases List.mem_cons.1 listed with rfl | listed
        · exact own
        · exact ih others d listed

def Reaches (positives : List String) (free : Open) (hits : List Nat) (word : String) : Prop :=
  ∃ i ∈ hits, free.has i ∧ positives.getD i "" = word

section

variable {positives : List String} {free : Open}

theorem reaches_cons {i : Nat} {rest : List Nat} {word : String} :
    Reaches positives free (i :: rest) word ↔
      free.has i ∧ positives.getD i "" = word ∨ Reaches positives free rest word := by
  simp only [Reaches, List.mem_cons, or_and_right, exists_or, exists_eq_left]

theorem lists_noteHits {hits : List Nat} {index : WordIndex} {k entry : Nat} {word : String} :
    (noteHits positives free k hits index).Lists word entry ↔
      entry = k ∧ Reaches positives free hits word ∨ index.Lists word entry := by
  induction hits generalizing index with
  | nil => simp [noteHits, Reaches]
  | cons i rest ih =>
    have step : noteHits positives free k (i :: rest) index = noteHits positives free k rest
        (if free.has i then note (positives.getD i "") k index else index) := rfl
    rw [step, ih, reaches_cons]
    by_cases isOpen : free.has i
    · rw [if_pos isOpen, lists_note]
      grind
    · simp only [isOpen, Bool.false_eq_true, false_and, false_or, if_false]

theorem occupied_noteHits {index : WordIndex} (h : index.Occupied) (k : Nat) (hits : List Nat) :
    (noteHits positives free k hits index).Occupied := by
  induction hits generalizing index with
  | nil => exact h
  | cons i rest ih =>
    have next : Occupied (if free.has i then note (positives.getD i "") k index else index) := by
      split
      · exact occupied_note h _ k
      · exact h
    exact ih next

theorem lists_noteTable {table : CoverageTable} {index : WordIndex} {k entry : Nat}
    {word : String} :
    (noteTable positives free k table index).Lists word entry ↔
      (∃ j e, table[j]? = some e ∧ entry = k + j ∧ Reaches positives free e.hits word) ∨
        index.Lists word entry := by
  induction table generalizing k index with
  | nil => simp [noteTable]
  | cons e rest ih =>
    rw [noteTable, ih, lists_noteHits]
    constructor
    · rintro (⟨j, d, place, rfl, reached⟩ | ⟨rfl, reached⟩ | old)
      · exact .inl ⟨j + 1, d, by simpa using place, by omega, reached⟩
      · exact .inl ⟨0, e, rfl, rfl, reached⟩
      · exact .inr old
    · rintro (⟨j, d, place, rfl, reached⟩ | old)
      · cases j with
        | zero =>
          cases place
          exact .inr (.inl ⟨rfl, reached⟩)
        | succ j => exact .inl ⟨j, d, by simpa using place, by omega, reached⟩
      · exact .inr (.inr old)

theorem occupied_nil : Occupied [] := by simp [Occupied]

theorem occupied_noteTable {index : WordIndex} (h : index.Occupied) (k : Nat)
    (table : CoverageTable) : (noteTable positives free k table index).Occupied := by
  induction table generalizing k index with
  | nil => exact h
  | cons e rest ih => exact ih (occupied_noteHits h k e.hits) (k + 1)

/-- The index lists an entry under the words of the open places that it hits, and nowhere else. -/
theorem lists_ofTable {table : CoverageTable} {word : String} {entry : Nat} :
    (ofTable table positives free).Lists word entry ↔
      ∃ e, table[entry]? = some e ∧ Reaches positives free e.hits word := by
  have turned : (ofTable table positives free).Lists word entry ↔
      (noteTable positives free 0 table []).Lists word entry := by
    simp only [ofTable, Lists, List.mem_map, Prod.exists, Prod.mk.injEq]
    constructor
    · rintro ⟨_, ⟨w, entries, listed, rfl, rfl⟩, member⟩
      exact ⟨entries, listed, List.mem_reverse.1 member⟩
    · rintro ⟨entries, listed, member⟩
      exact ⟨_, ⟨word, entries, listed, rfl, rfl⟩, List.mem_reverse.2 member⟩
  rw [turned, lists_noteTable]
  constructor
  · rintro (⟨j, e, place, rfl, reached⟩ | ⟨_, listed, _⟩)
    · exact ⟨e, by simpa using place, reached⟩
    · simp at listed
  · rintro ⟨e, place, reached⟩
    exact .inl ⟨entry, e, place, by simp, reached⟩

theorem occupied_ofTable (table : CoverageTable) : (ofTable table positives free).Occupied := by
  intro d listed
  obtain ⟨e, old, rfl⟩ := List.mem_map.1 listed
  have own := occupied_noteTable occupied_nil 0 table e old
  simpa using own

end

/-- Words stand in increasing order, and the entries of each word are places below a bound that
follow each other by a relation. -/
structure Ordered (r : Nat → Nat → Prop) (bound : Nat) (index : WordIndex) : Prop where
  words : index.Pairwise fun a b => a.1 < b.1
  entries : ∀ row ∈ index, row.2.Pairwise r
  below : ∀ row ∈ index, ∀ k ∈ row.2, k < bound

theorem Ordered.mono {r : Nat → Nat → Prop} {bound more : Nat} {index : WordIndex}
    (h : index.Ordered r bound) (le : bound ≤ more) : index.Ordered r more where
  words := h.words
  entries := h.entries
  below row listed k member := Nat.lt_of_lt_of_le (h.below row listed k member) le

theorem mem_note {index : WordIndex} {w : String} {k : Nat} {row : String × List Nat}
    (listed : row ∈ note w k index) :
    row ∈ index ∨ row = (w, [k]) ∨
      ∃ entries, (w, entries) ∈ index ∧ entries.head? ≠ some k ∧ row = (w, k :: entries) := by
  induction index with
  | nil => exact .inr (.inl (List.mem_singleton.1 listed))
  | cons e rest ih =>
    obtain ⟨v, entries⟩ := e
    rw [note] at listed
    split at listed
    · rcases List.mem_cons.1 listed with rfl | old
      · exact .inr (.inl rfl)
      · exact .inl old
    · split at listed
      · rename_i same
        subst same
        rcases List.mem_cons.1 listed with rfl | old
        · split
          · exact .inl (.head _)
          · rename_i fresh
            exact .inr (.inr ⟨entries, .head _, fresh, rfl⟩)
        · exact .inl (.tail _ old)
      · rcases List.mem_cons.1 listed with rfl | later
        · exact .inl (.head _)
        · rcases ih later with old | new | ⟨more, old, fresh, eq⟩
          · exact .inl (.tail _ old)
          · exact .inr (.inl new)
          · exact .inr (.inr ⟨more, .tail _ old, fresh, eq⟩)

theorem word_of_mem_note {index : WordIndex} {w : String} {k : Nat} {row : String × List Nat}
    (listed : row ∈ note w k index) : row.1 = w ∨ ∃ old ∈ index, old.1 = row.1 := by
  rcases mem_note listed with old | rfl | ⟨entries, old, -, rfl⟩
  · exact .inr ⟨row, old, rfl⟩
  · exact .inl rfl
  · exact .inl rfl

theorem pairwise_words_note {index : WordIndex} (h : index.Pairwise fun a b => a.1 < b.1)
    (w : String) (k : Nat) : (note w k index).Pairwise fun a b => a.1 < b.1 := by
  induction index with
  | nil => simp [note]
  | cons e rest ih =>
    obtain ⟨v, entries⟩ := e
    obtain ⟨above, sorted⟩ := List.pairwise_cons.1 h
    rw [note]
    split
    · rename_i less
      refine List.pairwise_cons.2 ⟨fun row listed => ?_, h⟩
      rcases List.mem_cons.1 listed with rfl | listed
      · exact less
      · exact String.lt_trans less (above row listed)
    · rename_i notLess
      split
      · exact List.pairwise_cons.2 ⟨above, sorted⟩
      · rename_i differs
        have greater : v < w :=
          Std.lt_of_le_of_ne (String.not_lt.1 notLess) (Ne.symm differs)
        refine List.pairwise_cons.2 ⟨fun row listed => ?_, ih sorted⟩
        rcases word_of_mem_note listed with eq | ⟨old, member, eq⟩
        · exact eq ▸ greater
        · exact eq ▸ above old member

theorem ordered_note {k : Nat} {index : WordIndex} (h : index.Ordered (· > ·) (k + 1))
    (w : String) : (note w k index).Ordered (· > ·) (k + 1) where
  words := pairwise_words_note h.words w k
  entries row listed := by
    rcases mem_note listed with old | rfl | ⟨entries, old, fresh, rfl⟩
    · exact h.entries row old
    · simp
    · have sorted := h.entries _ old
      refine List.pairwise_cons.2 ⟨fun j member => ?_, sorted⟩
      obtain ⟨first, more, rfl⟩ := List.exists_cons_of_ne_nil (List.ne_nil_of_mem member)
      have atMost := h.below _ old first (.head _)
      have differs : first ≠ k := fun eq => fresh (by simp [eq])
      have less : first < k := by omega
      rcases List.mem_cons.1 member with rfl | later
      · exact less
      · exact Nat.lt_trans ((List.pairwise_cons.1 sorted).1 j later) less
  below row listed j member := by
    rcases mem_note listed with old | rfl | ⟨entries, old, -, rfl⟩
    · exact h.below row old j member
    · rw [List.mem_singleton.1 member]
      exact Nat.lt_succ_self k
    · rcases List.mem_cons.1 member with rfl | member
      · exact Nat.lt_succ_self _
      · exact h.below _ old j member

section

variable {positives : List String} {free : Open}

theorem ordered_noteHits {k : Nat} {index : WordIndex} (h : index.Ordered (· > ·) (k + 1))
    (hits : List Nat) : (noteHits positives free k hits index).Ordered (· > ·) (k + 1) := by
  induction hits generalizing index with
  | nil => exact h
  | cons i rest ih =>
    have next : Ordered (· > ·) (k + 1)
        (if free.has i then note (positives.getD i "") k index else index) := by
      split
      · exact ordered_note h _
      · exact h
    exact ih next

theorem ordered_noteTable {k : Nat} {index : WordIndex} (h : index.Ordered (· > ·) k)
    (table : CoverageTable) :
    (noteTable positives free k table index).Ordered (· > ·) (k + table.length) := by
  induction table generalizing k index with
  | nil => exact h
  | cons e rest ih =>
    have noted : (noteHits positives free k e.hits index).Ordered (· > ·) (k + 1) :=
      ordered_noteHits (h.mono (Nat.le_succ k)) e.hits
    rw [List.length_cons, Nat.add_comm rest.length 1, ← Nat.add_assoc]
    exact ih noted

theorem ordered_ofTable (table : CoverageTable) :
    (ofTable table positives free).Ordered (· < ·) table.length := by
  have built : (noteTable positives free 0 table []).Ordered (· > ·) (0 + table.length) :=
    ordered_noteTable ⟨.nil, by simp, by simp⟩ table
  rw [Nat.zero_add] at built
  refine ⟨List.pairwise_map.2 built.words, fun row listed => ?_, fun row listed k member => ?_⟩
  · obtain ⟨old, among, rfl⟩ := List.mem_map.1 listed
    exact List.pairwise_reverse.2 (built.entries old among)
  · obtain ⟨old, among, rfl⟩ := List.mem_map.1 listed
    exact built.below old among k (List.mem_reverse.1 member)

end

section

variable {index other : WordIndex} {bound more : Nat}

theorem Ordered.entries_unique {r : Nat → Nat → Prop} (h : index.Ordered r bound) {w : String}
    {as bs : List Nat} (first : (w, as) ∈ index) (second : (w, bs) ∈ index) : as = bs := by
  have once : (index.map (·.1)).Nodup :=
    List.pairwise_map.2 (h.words.imp fun less => String.ne_of_lt less)
  exact (Prod.mk.inj (List.inj_on_of_nodup_map once first second rfl)).2

theorem Ordered.lists_iff_mem {r : Nat → Nat → Prop} (h : index.Ordered r bound)
    {row : String × List Nat} (listed : row ∈ index) {k : Nat} :
    index.Lists row.1 k ↔ k ∈ row.2 := by
  constructor
  · rintro ⟨entries, member, held⟩
    rwa [h.entries_unique listed member]
  · exact fun held => ⟨row.2, listed, held⟩

theorem mem_of_same_lists (h : index.Ordered (· < ·) bound) (h' : other.Ordered (· < ·) more)
    (occupied : index.Occupied) (same : ∀ w k, index.Lists w k ↔ other.Lists w k)
    {row : String × List Nat} (listed : row ∈ index) : row ∈ other := by
  obtain ⟨k, held⟩ := List.exists_mem_of_ne_nil row.2 (occupied row listed)
  obtain ⟨entries, member, -⟩ := (same row.1 k).1 ⟨row.2, listed, held⟩
  have equal : row.2 = entries := by
    refine (h.entries row listed).eq_of_mem_iff (h'.entries _ member) fun j => ?_
    rw [← h.lists_iff_mem listed, same, ← h'.lists_iff_mem member]
  rw [← equal] at member
  exact member

theorem eq_of_same_lists (h : index.Ordered (· < ·) bound) (h' : other.Ordered (· < ·) more)
    (occupied : index.Occupied) (occupied' : other.Occupied)
    (same : ∀ w k, index.Lists w k ↔ other.Lists w k) : index = other := by
  refine eq_of_increasing_keys h.words h'.words fun row => ⟨?_, ?_⟩
  · exact mem_of_same_lists h h' occupied same
  · exact mem_of_same_lists h' h occupied' fun w k => (same w k).symm

theorem ofTable_eq_of_lists {table other : CoverageTable} {positives words : List String}
    {free left : Open}
    (same : ∀ w k,
      (ofTable table positives free).Lists w k ↔ (ofTable other words left).Lists w k) :
    ofTable table positives free = ofTable other words left :=
  eq_of_same_lists (ordered_ofTable table) (ordered_ofTable other) (occupied_ofTable table)
    (occupied_ofTable other) same

end

theorem hardest_eq_filter (index : WordIndex) :
    index.hardest = index.filter fun row => ∀ other ∈ index, row.2.length ≤ other.2.length := by
  unfold hardest
  split
  · rename_i none
    have empty : index = [] := by simpa using none
    simp [empty]
  · rename_i lowest least
    rw [List.min?_eq_some_iff] at least
    obtain ⟨attained, bound⟩ := least
    refine List.filter_congr fun row listed => ?_
    rw [Bool.eq_iff_iff, beq_iff_eq, decide_eq_true_iff]
    constructor
    · rintro rfl other among
      exact bound _ (List.mem_map_of_mem among)
    · intro short
      obtain ⟨other, among, rfl⟩ := List.mem_map.1 attained
      exact Nat.le_antisymm (short other among) (bound _ (List.mem_map_of_mem listed))

theorem mem_hardest {index : WordIndex} {row : String × List Nat} :
    row ∈ index.hardest ↔ row ∈ index ∧ ∀ other ∈ index, row.2.length ≤ other.2.length := by
  rw [hardest_eq_filter, List.mem_filter, decide_eq_true_iff]

theorem mem_of_mem_hardest {index : WordIndex} {e : String × List Nat}
    (listed : e ∈ index.hardest) : e ∈ index := (mem_hardest.1 listed).1

theorem hardest_eq_nil_iff {index : WordIndex} : index.hardest = [] ↔ index = [] := by
  constructor
  · intro none
    unfold hardest at none
    split at none
    · rename_i least
      simpa using least
    · rename_i lowest least
      obtain ⟨e, listed, eq⟩ := List.mem_map.1 (List.min?_mem least)
      have kept : e ∈ index.filter fun e => e.2.length == lowest :=
        List.mem_filter.2 ⟨listed, by simpa using eq⟩
      rw [none] at kept
      simp at kept
  · rintro rfl
    rfl

end WordIndex

end RegexGolf.Score
