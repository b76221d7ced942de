import RegexGolf.Coverage
import RegexGolf.Proofs.Stages

/-!
What a coverage table says. It is refused for the first fragment that cannot be read, whatever the
lists are; otherwise its entries are the fragments that match some positive and no negative, in the
order of the pool, each with the places of all positives that it matches.
-/

namespace RegexGolf.Coverage

open Regex

/-- The places of the members of a list that pass a test. -/
def places {α : Type} (p : α → Bool) (l : List α) : List Nat :=
  (l.zipIdx.filter fun entry => p entry.1).map (·.2)

section

variable {α : Type}

theorem mem_places {p : α → Bool} {l : List α} {i : Nat} :
    i ∈ places p l ↔ ∃ a, l[i]? = some a ∧ p a := by
  simp only [places, List.mem_map, List.mem_filter, List.mem_zipIdx_iff_getElem?, Prod.exists]
  constructor
  · rintro ⟨a, j, ⟨place, passes⟩, rfl⟩
    exact ⟨a, place, passes⟩
  · rintro ⟨a, place, passes⟩
    exact ⟨a, i, ⟨place, passes⟩, rfl⟩

theorem pairwise_places (p : α → Bool) (l : List α) : (places p l).Pairwise (· < ·) := by
  have ordered : l.zipIdx.Pairwise fun a b => a.2 < b.2 := by
    rw [← List.pairwise_map (f := Prod.snd), List.zipIdx_map_snd]
    exact List.pairwise_lt_range'
  rw [places, List.pairwise_map]
  exact ordered.filter _

theorem countP_zipIdx (l : List α) (p : α → Bool) :
    (l.zipIdx.countP fun entry => p entry.1) = l.countP p := by
  have firsts := congrArg (List.countP p) (List.zipIdx_map_fst 0 l)
  rwa [List.countP_map] at firsts

theorem length_places (p : α → Bool) (l : List α) : (places p l).length = l.countP p := by
  rw [places, List.length_map, ← List.countP_eq_length_filter, countP_zipIdx]

end

def placesOf (fragment : String) (words : List String) : List Nat :=
  (words.zipIdx.filter fun entry => accepts fragment entry.1).map (·.2)

def isKept (positives negatives : List String) (fragment : String) : Bool :=
  positives.any (accepts fragment) && !negatives.any (accepts fragment)

theorem mem_placesOf {fragment : String} {words : List String} {i : Nat} :
    i ∈ placesOf fragment words ↔ ∃ word, words[i]? = some word ∧ accepts fragment word :=
  mem_places

theorem pairwise_placesOf (fragment : String) (words : List String) :
    (placesOf fragment words).Pairwise (· < ·) :=
  pairwise_places _ words

theorem length_placesOf (fragment : String) (words : List String) :
    (placesOf fragment words).length = words.countP (accepts fragment) :=
  length_places _ words

theorem placesOf_eq_nil {fragment : String} {words : List String}
    (none : words.any (accepts fragment) = false) : placesOf fragment words = [] := by
  rw [List.eq_nil_iff_forall_not_mem]
  intro i listed
  obtain ⟨word, place, accepted⟩ := mem_placesOf.1 listed
  exact List.any_eq_false.1 none word (List.mem_of_getElem? place) accepted

theorem of?_eq {fragment : String} {r : Regex} (read : parse fragment = .ok r)
    (positives negatives : List String) :
    of? fragment r positives negatives =
      if isKept positives negatives fragment then some ⟨fragment, placesOf fragment positives⟩
      else none := by
  have same : r.isMatch = accepts fragment := funext fun word => (accepts_of_parse read word).symm
  have hits : hitsOf r positives = placesOf fragment positives := by
    simp only [hitsOf, placesOf, same]
  simp only [of?, isKept, hits, same]
  by_cases bad : negatives.any (accepts fragment)
  · simp [bad]
  · by_cases good : positives.any (accepts fragment)
    · obtain ⟨word, listed, accepted⟩ := List.any_eq_true.1 good
      obtain ⟨i, place⟩ := List.mem_iff_getElem?.1 listed
      have some : placesOf fragment positives ≠ [] :=
        List.ne_nil_of_mem (mem_placesOf.2 ⟨word, place, accepted⟩)
      simp [bad, good, some]
    · simp [bad, good, placesOf_eq_nil (Bool.eq_false_iff.2 good)]

variable {positives negatives : List String}

theorem ofFragments_eq_ok {fragments : List String} {table : CoverageTable}
    (ends : ofFragments positives negatives fragments = .ok table) :
    (∀ f ∈ fragments, ∃ r, parse f = .ok r) ∧
      table = (fragments.filter (isKept positives negatives)).map
        fun f => ⟨f, placesOf f positives⟩ := by
  induction fragments generalizing table with
  | nil =>
    cases ends
    exact ⟨by simp, rfl⟩
  | cons f rest ih =>
    obtain ⟨r, read, ends⟩ := bind_eq_ok_iff.1 ends
    obtain ⟨others, ends, eq⟩ := bind_eq_ok_iff.1 ends
    obtain ⟨all, rfl⟩ := ih ends
    refine ⟨by simpa using ⟨⟨r, read⟩, all⟩, ?_⟩
    rw [← Except.ok.inj eq, of?_eq read, List.filter_cons]
    split <;> simp

theorem ofFragments_of_parse {fragments : List String}
    (all : ∀ f ∈ fragments, ∃ r, parse f = .ok r) :
    ∃ table, ofFragments positives negatives fragments = .ok table := by
  induction fragments with
  | nil => exact ⟨[], rfl⟩
  | cons f rest ih =>
    obtain ⟨r, read⟩ := all f (.head _)
    obtain ⟨table, ends⟩ := ih fun g listed => all g (.tail _ listed)
    exact ⟨_, by rw [ofFragments, read, ends]; rfl⟩

theorem ofFragments_eq_error_iff {fragments : List String} {e : PatternError} :
    ofFragments positives negatives fragments = .error e ↔
      ∃ before f after, fragments = before ++ f :: after ∧
        (∀ g ∈ before, ∃ r, parse g = .ok r) ∧ parse f = .error e := by
  induction fragments with
  | nil => simp [ofFragments]
  | cons f rest ih =>
    rw [ofFragments]
    constructor
    · intro fails
      rcases bind_eq_error_iff.1 fails with fails | ⟨r, read, fails⟩
      · exact ⟨[], f, rest, rfl, by simp, fails⟩
      · rcases bind_eq_error_iff.1 fails with fails | ⟨_, _, fails⟩
        · obtain ⟨before, g, after, rfl, all, bad⟩ := ih.1 fails
          exact ⟨f :: before, g, after, rfl, by simpa using ⟨⟨r, read⟩, all⟩, bad⟩
        · cases fails
    · rintro ⟨before, g, after, eq, all, bad⟩
      cases before with
      | nil =>
        rw [List.nil_append, List.cons.injEq] at eq
        rw [eq.1, bad]
        rfl
      | cons f' before =>
        rw [List.cons_append, List.cons.injEq] at eq
        obtain ⟨rfl, rfl⟩ := eq
        obtain ⟨r, read⟩ := all f (.head _)
        have fails := ih.2 ⟨before, g, after, rfl, fun d listed => all d (.tail _ listed), bad⟩
        rw [read, fails]
        rfl

/-- A table lists fragments that match some positive and no negative, once each, with the places of
the positives that they match. -/
structure Truthful (table : CoverageTable) (positives negatives : List String) : Prop where
  kept : ∀ e ∈ table, isKept positives negatives e.fragment
  hits : ∀ e ∈ table, e.hits = placesOf e.fragment positives
  once : (table.map (·.fragment)).Nodup

theorem truthful_table {p : Pool} {t : CoverageTable}
    (ends : table p positives negatives = .ok t) : Truthful t positives negatives := by
  obtain ⟨-, rfl⟩ := ofFragments_eq_ok ends
  refine ⟨fun e listed => ?_, fun e listed => ?_, ?_⟩
  · obtain ⟨f, kept, rfl⟩ := List.mem_map.1 listed
    exact (List.mem_filter.1 kept).2
  · obtain ⟨f, -, rfl⟩ := List.mem_map.1 listed
    rfl
  · simp only [List.map_map, Function.comp_def, List.map_id']
    exact p.nodup_keys.filter _

theorem mem_fragments_table {p : Pool} {t : CoverageTable}
    (ends : table p positives negatives = .ok t) {f : String} :
    f ∈ t.map (·.fragment) ↔ f ∈ p.keys ∧ isKept positives negatives f := by
  obtain ⟨-, rfl⟩ := ofFragments_eq_ok ends
  simp

variable {t : CoverageTable}

theorem Truthful.spares (h : Truthful t positives negatives) {e : Coverage} (listed : e ∈ t)
    {word : String} (negative : word ∈ negatives) : accepts e.fragment word = false := by
  have kept := h.kept e listed
  simp only [isKept, Bool.and_eq_true, Bool.not_eq_true', List.any_eq_false] at kept
  simpa using kept.2 word negative

theorem Truthful.mem_hits (h : Truthful t positives negatives) {e : Coverage} (listed : e ∈ t)
    {i : Nat} : i ∈ e.hits ↔ ∃ word, positives[i]? = some word ∧ accepts e.fragment word := by
  rw [h.hits e listed, mem_placesOf]

end RegexGolf.Coverage
