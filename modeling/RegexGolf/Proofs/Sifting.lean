import RegexGolf.Proofs.Refusal

/-!
What sifting makes of a pool. If some fragment cannot be read the pool is refused for the least of
them. Otherwise there is exactly one table: it lists the contained fragments in increasing order,
each with the places of all positives that it matches.
-/

namespace RegexGolf

open Regex

theorem contains_of_parse {pattern : String} {r : Regex} (read : parse pattern = .ok r)
    (positives negatives : List String) :
    contains pattern positives negatives = .ok (Coverage.isKept positives negatives pattern) := by
  have same : r.isMatch = accepts pattern := funext fun word => (accepts_of_parse read word).symm
  rw [contains, read, Coverage.isKept, ← same]
  rfl

namespace Coverage

/-- A table is the listing of a pool for two lists: the contained fragments in increasing order, and
for each the increasing places of the positives that it matches, of which there are some. -/
structure IsListing (p : Pool) (positives negatives : List String) (t : CoverageTable) :
    Prop where
  ordered : (t.map (·.fragment)).Pairwise (· < ·)
  listed : ∀ f, f ∈ t.map (·.fragment) ↔
    f ∈ p.keys ∧ contains f positives negatives = .ok true
  increasing : ∀ e ∈ t, e.hits.Pairwise (· < ·)
  hits : ∀ e ∈ t, ∀ i, i ∈ e.hits ↔
    ∃ r, parse e.fragment = .ok r ∧ ∃ word, positives[i]? = some word ∧ r.isMatch word
  some_hit : ∀ e ∈ t, e.hits ≠ []

section

variable {p : Pool} {positives negatives : List String} {t : CoverageTable}

theorem IsListing.lt_length (h : IsListing p positives negatives t) {e : Coverage} (member : e ∈ t)
    {i : Nat} (hit : i ∈ e.hits) : i < positives.length := by
  obtain ⟨r, -, word, place, -⟩ := (h.hits e member i).1 hit
  exact (List.getElem?_eq_some_iff.1 place).1

theorem IsListing.mem_of_mem (h : IsListing p positives negatives t) {other : CoverageTable}
    (h' : IsListing p positives negatives other) {e : Coverage} (member : e ∈ t) : e ∈ other := by
  have named := (h.listed e.fragment).1 (List.mem_map_of_mem member)
  obtain ⟨d, among, same⟩ := List.mem_map.1 ((h'.listed e.fragment).2 named)
  have hits : d.hits = e.hits := by
    refine (h'.increasing d among).eq_of_mem_iff (h.increasing e member) fun i => ?_
    rw [h'.hits d among, h.hits e member, same]
  have equal : d = e := by
    cases d
    cases e
    cases same
    cases hits
    rfl
  exact equal ▸ among

theorem IsListing.unique (h : IsListing p positives negatives t) {other : CoverageTable}
    (h' : IsListing p positives negatives other) : t = other := by
  have ordered := List.pairwise_map.1 h.ordered
  have ordered' := List.pairwise_map.1 h'.ordered
  have once : ∀ {l : CoverageTable}, (l.Pairwise fun a b => a.fragment < b.fragment) → l.Nodup :=
    fun sorted => sorted.imp fun less eq => String.ne_of_lt less (congrArg Coverage.fragment eq)
  have perm : t.Perm other := (List.perm_ext_iff_of_nodup (once ordered) (once ordered')).2
    fun e => ⟨h.mem_of_mem h', h'.mem_of_mem h⟩
  refine perm.eq_of_pairwise (fun a b _ _ less greater => ?_) ordered ordered'
  exact absurd (String.lt_trans less greater) (String.lt_irrefl a.fragment)

theorem isListing_table (built : table p positives negatives = .ok t) :
    IsListing p positives negatives t := by
  have truth := truthful_table built
  obtain ⟨readable, eq⟩ := ofFragments_eq_ok built
  have names : t.map (·.fragment) = p.keys.filter (isKept positives negatives) := by
    rw [eq, List.map_map]
    exact List.map_id _
  have among : ∀ e ∈ t, e.fragment ∈ p.keys := fun e member =>
    ((mem_fragments_table built).1 (List.mem_map_of_mem member)).1
  have hits : ∀ e ∈ t, ∀ i, i ∈ e.hits ↔
      ∃ r, parse e.fragment = .ok r ∧ ∃ word, positives[i]? = some word ∧ r.isMatch word := by
    intro e member i
    obtain ⟨r, read⟩ := readable e.fragment (among e member)
    simp only [truth.mem_hits member, read, accepts_of_parse read, Except.ok.injEq, exists_eq_left']
  refine ⟨?_, fun f => ?_, fun e member => ?_, hits, fun e member none => ?_⟩
  · rw [names]
    exact p.pairwise_keys.filter _
  · rw [mem_fragments_table built]
    refine and_congr_right fun key => ?_
    obtain ⟨r, read⟩ := readable f key
    rw [contains_of_parse read, Except.ok.injEq]
  · rw [truth.hits e member]
    exact pairwise_placesOf e.fragment positives
  · have kept := truth.kept e member
    rw [isKept, Bool.and_eq_true, List.any_eq_true] at kept
    obtain ⟨⟨word, positive, accepted⟩, -⟩ := kept
    obtain ⟨i, place⟩ := List.mem_iff_getElem?.1 positive
    have hit := (truth.mem_hits member).2 ⟨word, place, accepted⟩
    rw [none] at hit
    cases hit

theorem table_eq_error_iff {e : PatternError} :
    table p positives negatives = .error e ↔ IsFirstFault p.keys e := by
  refine ⟨isFirstFault_of_table, fun h => ?_⟩
  obtain ⟨before, after, split⟩ := List.append_of_mem h.listed
  have sorted := p.pairwise_keys
  rw [split, List.pairwise_append] at sorted
  refine ofFragments_eq_error_iff.2 ⟨before, e.pattern, after, split, fun g earlier => ?_, h.fault⟩
  exact h.first g (by simp [split, earlier]) (sorted.2.2 g earlier _ (.head _))

theorem exists_table_iff :
    (∃ t, table p positives negatives = .ok t) ↔ ∀ f ∈ p.keys, ∃ r, parse f = .ok r :=
  ⟨fun ⟨_, built⟩ => (ofFragments_eq_ok built).1, ofFragments_of_parse⟩

end

/-- What sifting makes of any pool. -/
theorem table_listing (p : Pool) (positives negatives : List String) :
    ((∃ e, table p positives negatives = .error e) ↔
      ∃ f ∈ p.keys, ∃ e, parse f = .error e) ∧
    (∀ e, table p positives negatives = .error e ↔ IsFirstFault p.keys e) ∧
    (∀ t, table p positives negatives = .ok t ↔
      (∀ f ∈ p.keys, ∃ r, parse f = .ok r) ∧ IsListing p positives negatives t) ∧
    ∀ t, IsListing p positives negatives t → ∀ e ∈ t, ∀ i ∈ e.hits, i < positives.length := by
  refine ⟨⟨?_, ?_⟩, fun e => table_eq_error_iff, fun t => ⟨fun built => ?_, ?_⟩,
    fun t h e member i => h.lt_length member⟩
  · rintro ⟨e, fails⟩
    have refused := table_eq_error_iff.1 fails
    exact ⟨e.pattern, refused.listed, e, refused.fault⟩
  · rintro ⟨f, key, e, fault⟩
    cases ends : table p positives negatives with
    | error d => exact ⟨d, rfl⟩
    | ok t =>
      obtain ⟨r, read⟩ := exists_table_iff.1 ⟨t, ends⟩ f key
      rw [fault] at read
      cases read
  · exact ⟨exists_table_iff.1 ⟨t, built⟩, isListing_table built⟩
  · rintro ⟨readable, listing⟩
    obtain ⟨other, built⟩ := exists_table_iff.2 readable
    rw [built, (isListing_table built).unique listing]

theorem table_listing_pets :
    IsListing (.ofKeys ["ca", "c", "o", "x", "g$"]) ["cat", "car", "dog"] ["cow"]
        [⟨"ca", [0, 1]⟩, ⟨"g$", [2]⟩] ∧
      ∃ e, table (.ofKeys ["a", "b(", "a("]) ["a"] ["b"] = .error e ∧
        IsFirstFault (Pool.ofKeys ["a", "b(", "a("]).keys e := by
  have built : table (.ofKeys ["ca", "c", "o", "x", "g$"]) ["cat", "car", "dog"] ["cow"] =
      .ok [⟨"ca", [0, 1]⟩, ⟨"g$", [2]⟩] := by decide +kernel
  obtain ⟨-, -, listing, -⟩ := table_listing (.ofKeys ["ca", "c", "o", "x", "g$"])
    ["cat", "car", "dog"] ["cow"]
  obtain ⟨refused, fault, -⟩ := table_listing (.ofKeys ["a", "b(", "a("]) ["a"] ["b"]
  obtain ⟨e, fails⟩ := refused.2 ⟨"b(", by simp, _, rfl⟩
  exact ⟨((listing _).1 built).2, e, fails, (fault e).1 fails⟩

end Coverage

end RegexGolf
