/-!
The library's stable merge sort in a form that closed terms evaluate in. The recursion of the
library's own merge does not reduce.
-/

namespace RegexGolf.Sorting

variable {α : Type}

def merge (le : α → α → Bool) : List α → List α → List α
  | [], r => r
  | l, [] => l
  | a :: l, b :: r => if le a b then a :: merge le l (b :: r) else b :: merge le (a :: l) r
termination_by l r => l.length + r.length

def sort (le : α → α → Bool) (l : List α) : List α := go l.length l
where
  -- The length bounds how often a list can be halved.
  go : Nat → List α → List α
    | n + 1, a :: b :: l =>
      let half := (l.length + 3) / 2
      merge le (go n ((a :: b :: l).take half)) (go n ((a :: b :: l).drop half))
    | _, l => l

variable {le : α → α → Bool}

theorem merge_eq (l r : List α) : merge le l r = l.merge r le := by
  induction l generalizing r with
  | nil => simp [merge]
  | cons a l ih =>
    induction r with
    | nil => simp [merge]
    | cons b r ih' => rw [merge, List.cons_merge_cons, ih, ih']

theorem go_eq {n : Nat} {l : List α} (enough : l.length ≤ n) :
    sort.go le n l = l.mergeSort le := by
  induction n generalizing l with
  | zero => simp [List.eq_nil_of_length_eq_zero (Nat.le_zero.1 enough), sort.go]
  | succ n ih =>
    match l with
    | [] => simp [sort.go]
    | [a] => simp [sort.go]
    | a :: b :: l =>
      rw [List.length_cons, List.length_cons] at enough
      rw [sort.go, List.mergeSort, merge_eq, ih, ih]
      · simp [List.MergeSort.Internal.splitInTwo_fst, List.MergeSort.Internal.splitInTwo_snd]
      · simp only [List.length_drop, List.length_cons]
        omega
      · simp only [List.length_take, List.length_cons]
        omega

theorem sort_eq (l : List α) : sort le l = l.mergeSort le := go_eq (Nat.le_refl _)

theorem perm_sort (l : List α) : (sort le l).Perm l := sort_eq l ▸ List.mergeSort_perm l le

@[simp] theorem mem_sort {a : α} {l : List α} : a ∈ sort le l ↔ a ∈ l := (perm_sort l).mem_iff

section

variable (trans : ∀ a b c, le a b → le b c → le a c) (total : ∀ a b, le a b || le b a)

include trans total

theorem pairwise_sort (l : List α) : (sort le l).Pairwise fun a b => le a b :=
  sort_eq l ▸ List.pairwise_mergeSort trans total l

/-- Sorting keeps the order of members that it need not tell apart. -/
theorem filter_sort {p : α → Bool} {l : List α}
    (equal : (l.filter p).Pairwise fun a b => le a b) : (sort le l).filter p = l.filter p := by
  have kept : (l.filter p).Sublist (sort le l) :=
    sort_eq l ▸ List.sublist_mergeSort trans total equal List.filter_sublist
  have inside := kept.filter p
  simp only [List.filter_filter, Bool.and_self] at inside
  exact (inside.eq_of_length ((perm_sort l).filter _).length_eq.symm).symm

end

end RegexGolf.Sorting
