import RegexGolf.Sorting

/-!
Pools of candidate fragments. A pool gives each of its fragments a score and lists the fragments in
the order of their characters, which settles every tie between fragments of equal rank.
-/

namespace RegexGolf

open Sorting

theorem eq_of_increasing_keys {α : Type} {l r : List (String × α)}
    (hl : l.Pairwise fun a b => a.1 < b.1) (hr : r.Pairwise fun a b => a.1 < b.1)
    (same : ∀ e, e ∈ l ↔ e ∈ r) : l = r := by
  have once : ∀ {k : List (String × α)}, (k.Pairwise fun a b => a.1 < b.1) → k.Nodup :=
    fun sorted => sorted.imp fun less eq => String.ne_of_lt less (congrArg Prod.fst eq)
  have perm : l.Perm r := (List.perm_ext_iff_of_nodup (once hl) (once hr)).2 same
  refine perm.eq_of_pairwise (fun a b _ _ less greater => ?_) hl hr
  exact absurd (String.lt_trans less greater) (String.lt_irrefl a.1)

structure Pool where
  entries : List (String × Nat)
  sorted : entries.Pairwise fun a b => a.1 < b.1
  deriving DecidableEq

namespace Pool

def keyLe (a b : String × Nat) : Bool := a.1 ≤ b.1

/-- Puts an entry in front of a list, unless its fragment already stands there. -/
def prepend (e : String × Nat) (rest : List (String × Nat)) : List (String × Nat) :=
  match rest with
  | [] => [e]
  | f :: _ => if e.1 = f.1 then rest else e :: rest

theorem mem_of_mem_prepend {e x : String × Nat} {rest : List (String × Nat)}
    (h : x ∈ prepend e rest) : x = e ∨ x ∈ rest := by
  unfold prepend at h
  split at h
  · simpa using h
  · split at h
    · exact .inr h
    · simpa using h

theorem mem_of_mem_foldr_prepend {x : String × Nat} {l : List (String × Nat)}
    (h : x ∈ l.foldr prepend []) : x ∈ l := by
  induction l with
  | nil => simp at h
  | cons e rest ih =>
    rcases mem_of_mem_prepend h with rfl | h
    · simp
    · exact .tail _ (ih h)

theorem mem_prepend_of_mem {e x : String × Nat} {rest : List (String × Nat)} (h : x ∈ rest) :
    x ∈ prepend e rest := by
  unfold prepend
  split
  · simp at h
  · split
    · exact h
    · exact .tail _ h

theorem exists_mem_prepend (e : String × Nat) (rest : List (String × Nat)) :
    ∃ y ∈ prepend e rest, y.1 = e.1 := by
  unfold prepend
  split
  · exact ⟨e, by simp, rfl⟩
  · rename_i f more
    split
    · rename_i same
      exact ⟨f, by simp, same.symm⟩
    · exact ⟨e, by simp, rfl⟩

theorem exists_mem_foldr_prepend {x : String × Nat} {l : List (String × Nat)} (h : x ∈ l) :
    ∃ y ∈ l.foldr prepend [], y.1 = x.1 := by
  induction l with
  | nil => simp at h
  | cons e rest ih =>
    rcases List.mem_cons.1 h with rfl | h
    · exact exists_mem_prepend _ _
    · obtain ⟨y, hy, eq⟩ := ih h
      exact ⟨y, mem_prepend_of_mem hy, eq⟩

theorem le_of_mem_foldr_prepend {e x : String × Nat} {rest : List (String × Nat)}
    (h : ∀ y ∈ rest, keyLe e y) (listed : x ∈ rest.foldr prepend []) : e.1 ≤ x.1 := by
  simpa [keyLe] using h x (mem_of_mem_foldr_prepend listed)

theorem pairwise_foldr_prepend {l : List (String × Nat)}
    (h : l.Pairwise fun a b => keyLe a b) :
    (l.foldr prepend []).Pairwise fun a b => a.1 < b.1 := by
  induction l with
  | nil => simp
  | cons e rest ih =>
    rw [List.pairwise_cons] at h
    have ordered := ih h.2
    have above : ∀ x ∈ rest.foldr prepend [], e.1 ≤ x.1 := fun x => le_of_mem_foldr_prepend h.1
    simp only [List.foldr_cons]
    generalize rest.foldr prepend [] = tail at ordered above
    unfold prepend
    split
    · simp
    · rename_i f more
      split
      · exact ordered
      · rename_i differs
        have first : e.1 < f.1 :=
          Std.lt_of_le_of_ne (above f (by simp)) differs
        refine List.pairwise_cons.2 ⟨fun x hx => ?_, ordered⟩
        rcases List.mem_cons.1 hx with rfl | hx
        · exact first
        · exact String.lt_trans first ((List.pairwise_cons.1 ordered).1 x hx)

theorem keyLe_trans (a b c : String × Nat) (first : keyLe a b) (second : keyLe b c) :
    keyLe a c := by
  simp only [keyLe, decide_eq_true_eq] at *
  exact String.le_trans first second

theorem keyLe_total (a b : String × Nat) : keyLe a b || keyLe b a := by
  simpa [keyLe] using String.le_total a.1 b.1

theorem pairwise_sort_keyLe (l : List (String × Nat)) :
    (sort keyLe l).Pairwise fun a b => keyLe a b :=
  pairwise_sort keyLe_trans keyLe_total l

theorem filter_sort_keyLe (l : List (String × Nat)) (key : String) :
    (sort keyLe l).filter (·.1 == key) = l.filter (·.1 == key) := by
  refine filter_sort keyLe_trans keyLe_total
    (List.pairwise_of_forall_mem_list fun a first b second => ?_)
  simp only [List.mem_filter, beq_iff_eq] at first second
  simp [keyLe, first.2, second.2]

/-- The pool of the listed entries; of several entries for one fragment the last counts. -/
def ofList (l : List (String × Nat)) : Pool where
  entries := (sort keyLe l).foldr prepend []
  sorted := pairwise_foldr_prepend (pairwise_sort_keyLe l)

theorem mem_of_mem_ofList {e : String × Nat} {l : List (String × Nat)}
    (h : e ∈ (ofList l).entries) : e ∈ l :=
  mem_sort.1 (mem_of_mem_foldr_prepend h)

theorem foldr_prepend_of_nodup {l : List (String × Nat)} (once : (l.map (·.1)).Nodup) :
    l.foldr prepend [] = l := by
  induction l with
  | nil => rfl
  | cons e rest ih =>
    obtain ⟨fresh, others⟩ := List.nodup_cons.1 once
    rw [List.foldr_cons, ih others]
    cases rest with
    | nil => rfl
    | cons f more =>
      have differs : e.1 ≠ f.1 := fun same => fresh (by simp [same])
      exact if_neg differs

theorem perm_entries_ofList {l : List (String × Nat)} (once : (l.map (·.1)).Nodup) :
    (ofList l).entries.Perm l := by
  have perm : (sort keyLe l).Perm l := perm_sort l
  have kept : (ofList l).entries = sort keyLe l :=
    foldr_prepend_of_nodup ((perm.map _).nodup_iff.2 once)
  exact kept ▸ perm

theorem lookup_filter_key (l : List (String × Nat)) (key : String) :
    (l.filter (·.1 == key)).lookup key = l.lookup key := by
  induction l with
  | nil => rfl
  | cons e rest ih =>
    obtain ⟨k, score⟩ := e
    by_cases same : key = k
    · simp [same]
    · have other : (key == k) = false := beq_false_of_ne same
      simp [List.lookup_cons, other, Ne.symm same, ih]

theorem lookup_prepend {e : String × Nat} {rest : List (String × Nat)}
    (sorted : rest.Pairwise fun a b => a.1 < b.1) (above : ∀ x ∈ rest, e.1 ≤ x.1) (key : String) :
    (prepend e rest).lookup key = (rest.lookup key).or ([e].lookup key) := by
  obtain ⟨k, score⟩ := e
  unfold prepend
  split
  · rfl
  · rename_i f more
    obtain ⟨first, value⟩ := f
    by_cases same : k = first
    · rw [if_pos same]
      by_cases here : key = first
      · simp [List.lookup_cons, here]
      · have other : (key == k) = false := beq_false_of_ne (same ▸ here)
        simp [List.lookup_cons, other]
    · rw [if_neg same]
      by_cases here : key = k
      · have missing : ((first, value) :: more).lookup k = none := by
          rw [List.lookup_eq_none_iff]
          intro x listed
          have less : k < first := Std.lt_of_le_of_ne (above _ (.head _)) same
          have further : k < x.1 := by
            rcases List.mem_cons.1 listed with rfl | listed
            · exact less
            · exact String.lt_trans less ((List.pairwise_cons.1 sorted).1 x listed)
          simpa using String.ne_of_lt further
        rw [here, missing, List.lookup_cons_self, List.lookup_cons_self]
        rfl
      · have other : (key == k) = false := beq_false_of_ne here
        simp [List.lookup_cons, other]

theorem lookup_foldr_prepend {l : List (String × Nat)} (h : l.Pairwise fun a b => keyLe a b)
    (key : String) : (l.foldr prepend []).lookup key = l.reverse.lookup key := by
  induction l with
  | nil => rfl
  | cons e rest ih =>
    obtain ⟨below, others⟩ := List.pairwise_cons.1 h
    have sorted := pairwise_foldr_prepend others
    rw [List.foldr_cons, lookup_prepend sorted (fun x => le_of_mem_foldr_prepend below), ih others,
      List.reverse_cons, List.lookup_append]

def score? (p : Pool) (fragment : String) : Option Nat := p.entries.lookup fragment

theorem score?_eq_some_iff {p : Pool} {fragment : String} {score : Nat} :
    p.score? fragment = some score ↔ (fragment, score) ∈ p.entries := by
  rw [score?, List.lookup_eq_some_iff]
  constructor
  · rintro ⟨before, after, split, -⟩
    simp [split]
  · intro listed
    obtain ⟨before, after, split⟩ := List.append_of_mem listed
    have sorted := p.sorted
    rw [split, List.pairwise_append] at sorted
    refine ⟨before, after, split, fun x earlier => ?_⟩
    have less := sorted.2.2 x earlier _ (.head _)
    simpa using (String.ne_of_lt less).symm

theorem score?_ofList (l : List (String × Nat)) (fragment : String) :
    (ofList l).score? fragment = l.reverse.lookup fragment := by
  rw [score?, ofList, lookup_foldr_prepend (pairwise_sort_keyLe l), ← lookup_filter_key,
    List.filter_reverse, filter_sort_keyLe, ← List.filter_reverse, lookup_filter_key]

def ofKeys (fragments : List String) : Pool := ofList (fragments.map fun f => (f, 0))

def empty : Pool := ⟨[], .nil⟩

def keys (p : Pool) : List String := p.entries.map (·.1)

def size (p : Pool) : Nat := p.entries.length

@[simp] theorem mem_keys_ofList {k : String} {l : List (String × Nat)} :
    k ∈ (ofList l).keys ↔ k ∈ l.map (·.1) := by
  simp only [keys, List.mem_map]
  constructor
  · rintro ⟨e, he, rfl⟩
    exact ⟨e, mem_of_mem_ofList he, rfl⟩
  · rintro ⟨e, he, rfl⟩
    exact exists_mem_foldr_prepend (mem_sort.2 he)

@[simp] theorem mem_keys_ofKeys {k : String} {fragments : List String} :
    k ∈ (ofKeys fragments).keys ↔ k ∈ fragments := by
  simp [ofKeys]

theorem score_eq_zero_of_mem_ofKeys {e : String × Nat} {fragments : List String}
    (h : e ∈ (ofKeys fragments).entries) : e.2 = 0 := by
  obtain ⟨f, -, rfl⟩ := List.mem_map.1 (mem_of_mem_ofList h)
  rfl

@[simp] theorem mem_entries_ofKeys {e : String × Nat} {fragments : List String} :
    e ∈ (ofKeys fragments).entries ↔ e.1 ∈ fragments ∧ e.2 = 0 := by
  constructor
  · intro h
    exact ⟨mem_keys_ofKeys.1 (List.mem_map_of_mem h), score_eq_zero_of_mem_ofKeys h⟩
  · rintro ⟨listed, zero⟩
    obtain ⟨f, member, eq⟩ := List.mem_map.1 (mem_keys_ofKeys.2 listed)
    have same : f = e := Prod.ext eq ((score_eq_zero_of_mem_ofKeys member).trans zero.symm)
    exact same ▸ member

theorem pairwise_keys (p : Pool) : p.keys.Pairwise (· < ·) := List.pairwise_map.2 p.sorted

theorem nodup_keys (p : Pool) : p.keys.Nodup := p.pairwise_keys.imp fun less => String.ne_of_lt less

theorem eq_of_mem_iff {p q : Pool} (same : ∀ e, e ∈ p.entries ↔ e ∈ q.entries) : p = q := by
  have entries : p.entries = q.entries := eq_of_increasing_keys p.sorted q.sorted same
  cases p
  cases q
  cases entries
  rfl

theorem eq_of_score?_eq {p q : Pool} (same : ∀ fragment, p.score? fragment = q.score? fragment) :
    p = q :=
  eq_of_mem_iff fun e => by rw [← score?_eq_some_iff, same, score?_eq_some_iff]

/-- Both pools together; where they disagree on a score, the second counts. -/
def merge (p q : Pool) : Pool := ofList (p.entries ++ q.entries)

@[simp] theorem mem_keys_merge {p q : Pool} {k : String} :
    k ∈ (p.merge q).keys ↔ k ∈ p.keys ∨ k ∈ q.keys := by
  rw [merge, mem_keys_ofList, List.map_append, List.mem_append, keys, keys]

def Unscored (p : Pool) : Prop := ∀ e ∈ p.entries, e.2 = 0

theorem unscored_empty : empty.Unscored := by simp [Unscored, empty]

theorem unscored_ofKeys (fragments : List String) : (ofKeys fragments).Unscored :=
  fun _ listed => score_eq_zero_of_mem_ofKeys listed

theorem Unscored.merge {p q : Pool} (hp : p.Unscored) (hq : q.Unscored) :
    (p.merge q).Unscored := fun e listed =>
  (List.mem_append.1 (mem_of_mem_ofList listed)).elim (hp e) (hq e)

theorem Unscored.eq_of_mem_keys_iff {p q : Pool} (hp : p.Unscored) (hq : q.Unscored)
    (same : ∀ k, k ∈ p.keys ↔ k ∈ q.keys) : p = q := by
  have inside : ∀ {p q : Pool}, p.Unscored → q.Unscored → (∀ k ∈ p.keys, k ∈ q.keys) →
      ∀ e ∈ p.entries, e ∈ q.entries := by
    intro p q hp hq among e listed
    obtain ⟨d, member, key⟩ := List.mem_map.1 (among e.1 (List.mem_map_of_mem listed))
    have scores : d.2 = e.2 := (hq d member).trans (hp e listed).symm
    exact Prod.ext key scores ▸ member
  exact eq_of_mem_iff fun e =>
    ⟨inside hp hq (fun k => (same k).1) e, inside hq hp (fun k => (same k).2) e⟩

def insert (p : Pool) (fragment : String) (score : Nat) : Pool :=
  ofList (p.entries ++ [(fragment, score)])

/-- The entries by descending score; equal scores keep the order of the pool. -/
def ranked (p : Pool) : List (String × Nat) := sort (fun a b => b.2 ≤ a.2) p.entries

theorem perm_ranked (p : Pool) : p.ranked.Perm p.entries := perm_sort _

theorem score_ge_trans (a b c : String × Nat) (first : decide (b.2 ≤ a.2))
    (second : decide (c.2 ≤ b.2)) : decide (c.2 ≤ a.2) := by
  simp only [decide_eq_true_eq] at *
  omega

theorem score_ge_total (a b : String × Nat) : decide (b.2 ≤ a.2) || decide (a.2 ≤ b.2) := by
  simpa using Nat.le_total b.2 a.2

theorem filter_ranked (p : Pool) (score : Nat) :
    p.ranked.filter (·.2 == score) = p.entries.filter (·.2 == score) := by
  refine filter_sort score_ge_trans score_ge_total
    (List.pairwise_of_forall_mem_list fun a first b second => ?_)
  simp only [List.mem_filter, beq_iff_eq] at first second
  simp [first.2, second.2]

/-- Whether an entry comes before another in a ranking: by its score, then by its fragment. -/
def Outranks (a b : String × Nat) : Prop := b.2 < a.2 ∨ a.2 = b.2 ∧ a.1 < b.1

theorem pairwise_ranked (p : Pool) : p.ranked.Pairwise Outranks := by
  have descending : p.ranked.Pairwise fun a b => decide (b.2 ≤ a.2) :=
    pairwise_sort score_ge_trans score_ge_total p.entries
  rw [List.pairwise_iff_forall_sublist]
  intro a b pair
  have scores : b.2 ≤ a.2 := by
    simpa using List.pairwise_iff_forall_sublist.1 descending pair
  rcases Nat.lt_or_eq_of_le scores with less | same
  · exact .inl less
  · have together := pair.filter (·.2 == b.2)
    rw [p.filter_ranked] at together
    have ordered : [a, b].Sublist p.entries := by
      simpa [same] using together.trans List.filter_sublist
    exact .inr ⟨same.symm, List.pairwise_iff_forall_sublist.1 p.sorted ordered⟩

end Pool

end RegexGolf
