import RegexGolf.Proofs.CoverageTable
import RegexGolf.Score.Simple

/-!
Which positives are open, by their places. Closing the places that a fragment matches leaves open
the words that were open and that it does not match, and the number of open places falls by the
number of those that the fragment covered.
-/

namespace RegexGolf.Score.Open

open Regex

theorem has_map {words : List String} {p : String → Bool} {i : Nat} :
    Open.has (words.map p) i ↔ ∃ word, words[i]? = some word ∧ p word := by
  cases place : words[i]? with
  | none => simp [Open.has, List.getD_eq_getElem?_getD, place]
  | some word => simp [Open.has, List.getD_eq_getElem?_getD, place]

theorem size_map (words : List String) (p : String → Bool) :
    Open.size (words.map p) = words.countP p := by
  rw [Open.size, List.countP_map]
  rfl

theorem has_iff_getElem? {o : Open} {i : Nat} : o.has i ↔ o[i]? = some true := by
  rw [Open.has, List.getD_eq_getElem?_getD]
  cases o[i]? <;> simp

theorem has_of_size_eq_zero {o : Open} (none : o.size = 0) (i : Nat) : ¬o.has i := by
  intro isOpen
  rw [Open.size, List.countP_eq_zero] at none
  exact none true (List.mem_of_getElem? (has_iff_getElem?.1 isOpen)) rfl

theorem count_pos {o : Open} {places : List Nat} : 0 < o.count places ↔ ∃ i ∈ places, o.has i :=
  List.countP_pos_iff

/-- Of the places that a fragment matches, those are open whose words are. -/
theorem count_placesOf (words : List String) (p : String → Bool) (fragment : String) :
    Open.count (words.map p) (Coverage.placesOf fragment words) =
      words.countP fun word => p word && accepts fragment word := by
  rw [Open.count, Coverage.placesOf, List.countP_map, List.countP_filter,
    ← Coverage.countP_zipIdx words fun word => p word && accepts fragment word]
  apply List.countP_congr
  intro entry listed
  have place := List.mem_zipIdx_iff_getElem?.1 listed
  have same : Open.has (words.map p) entry.2 = p entry.1 := by
    simp [Open.has, List.getD_eq_getElem?_getD, place]
  simp only [Function.comp, same]

theorem size_replicate (n : Nat) : Open.size (List.replicate n true) = n := by
  simp [Open.size, List.countP_replicate]

theorem lt_length_of_has {o : Open} {i : Nat} (isOpen : o.has i) : i < o.length :=
  (List.getElem?_eq_some_iff.1 (has_iff_getElem?.1 isOpen)).1

theorem size_eq_countP_range (o : Open) : o.size = (List.range o.length).countP o.has := by
  have flags : (List.range o.length).map o.has = o := by
    refine List.ext_getElem (by simp) fun i _ inside => ?_
    simp [Open.has, List.getD_eq_getElem?_getD, inside]
  have counted := congrArg (List.countP id) flags
  rw [List.countP_map] at counted
  exact counted.symm

theorem has_close (o : Open) (places : List Nat) (i : Nat) :
    (o.close places).has i = (o.has i && !places.contains i) := by
  simp only [Open.has, Open.close, List.getD_eq_getElem?_getD, List.getElem?_mapIdx]
  cases o[i]? <;> rfl

theorem length_close (o : Open) (places : List Nat) : (o.close places).length = o.length :=
  List.length_mapIdx

theorem count_close (o : Open) (places : List Nat) : (o.close places).count places = 0 := by
  rw [Open.count, List.countP_eq_zero]
  intro i listed
  simp [has_close, listed]

theorem size_close_lt {o : Open} {places : List Nat} (covers : 0 < o.count places) :
    (o.close places).size < o.size := by
  obtain ⟨i, listed, isOpen⟩ := count_pos.1 covers
  have inside : i ∈ List.range o.length := List.mem_range.2 (lt_length_of_has isOpen)
  have closed : 0 < (List.range o.length).countP fun j => o.has j && places.contains j :=
    List.countP_pos_iff.2 ⟨i, inside, by simp [isOpen, listed]⟩
  have parts := List.countP_eq_countP_filter_add (List.range o.length) o.has places.contains
  rw [size_eq_countP_range, size_eq_countP_range, length_close, funext (has_close o places)]
  rw [List.countP_filter, List.countP_filter] at parts
  omega

theorem close_placesOf (words : List String) (p : String → Bool) (fragment : String) :
    Open.close (words.map p) (Coverage.placesOf fragment words) =
      words.map fun word => p word && !accepts fragment word := by
  refine List.ext_getElem (by simp [length_close]) fun i _ below => ?_
  have inside : i < words.length := by simpa using below
  have place : words[i]? = some words[i] := List.getElem?_eq_getElem inside
  have hit : (Coverage.placesOf fragment words).contains i = accepts fragment words[i] := by
    rw [Bool.eq_iff_iff, List.contains_iff_mem, Coverage.mem_placesOf, place]
    simp
  simp only [Open.close, List.getElem_mapIdx, List.getElem_map, hit]

theorem size_eq_size_close_add_count (words : List String) (p : String → Bool)
    (fragment : String) :
    Open.size (words.map p) =
      Open.size (Open.close (words.map p) (Coverage.placesOf fragment words)) +
        Open.count (words.map p) (Coverage.placesOf fragment words) := by
  rw [close_placesOf, count_placesOf, size_map, size_map, List.countP_eq_length_filter,
    List.length_eq_countP_add_countP (accepts fragment), List.countP_filter, List.countP_filter,
    Nat.add_comm]
  congr 1
  · apply List.countP_congr
    simp [and_comm]
  · apply List.countP_congr
    simp [and_comm]

end RegexGolf.Score.Open
