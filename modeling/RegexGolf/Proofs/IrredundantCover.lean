import RegexGolf.Proofs.GreedyCover

/-!
A cover is greedy and irredundant. Down the whole ranking a fragment is kept exactly if it spares
the negatives and matches some positive that no fragment kept above it matches; where the search
stops early, nothing further down would have been kept. So every part has a word of its own, the
cover is valid only when it is complete, and it is valid at all exactly if every positive is matched
by some scored fragment that spares the negatives.
-/

namespace RegexGolf.Cover

open Regex Alternation

/-- A cover lists entries of a ranking, in order, and an entry is kept exactly if it matches no
negative and some positive that no entry kept above it matches. -/
structure IsGreedy (positives negatives : List String) (ranked : List (String × Nat))
    (c : Cover) : Prop where
  listed : (c.map fun p => (p.fragment, p.score)).Sublist ranked
  kept : ∀ above e below, ranked = above ++ e :: below →
    (e.1 ∈ c.fragments ↔ (∀ n ∈ negatives, ¬accepts e.1 n) ∧
      ∃ w ∈ positives, accepts e.1 w ∧ ∀ d ∈ above, d.1 ∈ c.fragments → ¬accepts d.1 w)

section

variable {negatives left : List String} {ranked : List (String × Nat)}

theorem exists_own_of_scan {earlier later : Cover} {part : Part}
    (split : scan negatives left ranked = earlier ++ part :: later) :
    ∃ w ∈ left, accepts part.fragment w ∧ ∀ q ∈ earlier, ¬accepts q.fragment w := by
  induction ranked generalizing left earlier with
  | nil => simp [scan] at split
  | cons e rest ih =>
    obtain ⟨fragment, score⟩ := e
    by_cases kept : left.any (accepts fragment) && !negatives.any (accepts fragment)
    · rw [scan_of_kept kept] at split
      cases earlier with
      | nil =>
        have first := (List.cons.inj split).1
        obtain ⟨word, waits, accepted⟩ := (isKept_iff.1 kept).1
        exact ⟨word, waits, first ▸ accepted, by simp⟩
      | cons first earlier =>
        obtain ⟨same, split⟩ := List.cons.inj split
        obtain ⟨word, waits, accepted, fresh⟩ := ih split
        rw [List.mem_filter] at waits
        have missed : ¬accepts first.fragment word := by simpa [← same] using waits.2
        exact ⟨word, waits.1, accepted, List.forall_mem_cons.2 ⟨missed, fresh⟩⟩
    · rw [scan_of_not_kept kept] at split
      exact ih split

theorem mem_fragments_of_kept {fragment : String} {score : Nat} {rest : List (String × Nat)}
    (kept : left.any (accepts fragment) && !negatives.any (accepts fragment)) {f : String} :
    f ∈ (scan negatives left ((fragment, score) :: rest)).fragments ↔
      f = fragment ∨
        f ∈ (scan negatives (left.filter fun w => !accepts fragment w) rest).fragments := by
  rw [scan_of_kept kept]
  simp [fragments]

theorem mem_scan_iff (once : (ranked.map (·.1)).Nodup) {above below : List (String × Nat)}
    {e : String × Nat} (split : ranked = above ++ e :: below) :
    e.1 ∈ (scan negatives left ranked).fragments ↔ (∀ n ∈ negatives, ¬accepts e.1 n) ∧
      ∃ w ∈ left, accepts e.1 w ∧
        ∀ d ∈ above, d.1 ∈ (scan negatives left ranked).fragments → ¬accepts d.1 w := by
  induction ranked generalizing left above with
  | nil => simp at split
  | cons top rest ih =>
    obtain ⟨fragment, score⟩ := top
    obtain ⟨fresh, once⟩ := List.nodup_cons.1 once
    -- What stands on top is not met again, neither further down nor among the later parts.
    have lower : ∀ d ∈ rest, d.1 ≠ fragment := fun d member same =>
      fresh (List.mem_map.2 ⟨d, member, same⟩)
    have passed : fragment ∉ (scan negatives left rest).fragments := fun part =>
      fresh ((sublist_fragments_scan negatives left rest).mem part)
    by_cases kept : left.any (accepts fragment) && !negatives.any (accepts fragment)
    · cases above with
      | nil =>
        obtain rfl := (List.cons.inj split).1
        simpa [mem_fragments_of_kept kept, and_comm] using isKept_iff.1 kept
      | cons first above =>
        obtain ⟨rfl, under⟩ := List.cons.inj split
        have others : ∀ d ∈ above, d.1 ≠ fragment := fun d member =>
          lower d (under ▸ List.mem_append_left _ member)
        have own : e.1 ≠ fragment := lower e (by simp [under])
        simp only [mem_fragments_of_kept kept, or_iff_right own]
        rw [ih once under]
        refine and_congr_right fun _ => exists_congr fun word => ?_
        constructor
        · rintro ⟨waits, accepted, unmet⟩
          rw [List.mem_filter] at waits
          refine ⟨waits.1, accepted, List.forall_mem_cons.2 ⟨fun _ => by simpa using waits.2, ?_⟩⟩
          exact fun d member part => unmet d member (part.resolve_left (others d member))
        · rintro ⟨waits, accepted, unmet⟩
          obtain ⟨missed, unmet⟩ := List.forall_mem_cons.1 unmet
          have stays : word ∈ left.filter fun w => !accepts fragment w :=
            List.mem_filter.2 ⟨waits, by simpa using missed (.inl rfl)⟩
          exact ⟨stays, accepted, fun d member part => unmet d member (.inr part)⟩
    · rw [scan_of_not_kept kept]
      cases above with
      | nil =>
        obtain rfl := (List.cons.inj split).1
        have useless := mt isKept_iff.2 kept
        simpa [passed, and_comm] using useless
      | cons first above =>
        obtain ⟨rfl, under⟩ := List.cons.inj split
        rw [ih once under]
        simp [passed]

theorem isGreedy_scan (once : (ranked.map (·.1)).Nodup) :
    IsGreedy left negatives ranked (scan negatives left ranked) where
  listed := sublist_scan negatives left ranked
  kept _ _ _ split := mem_scan_iff once split

end

section

variable {positives negatives : List String} {ranked : List (String × Nat)}

theorem spares_scan (once : (ranked.map (·.1)).Nodup) {f : String}
    (part : f ∈ (scan negatives positives ranked).fragments) : ∀ n ∈ negatives, ¬accepts f n := by
  have listed := (sublist_fragments_scan negatives positives ranked).mem part
  obtain ⟨e, member, rfl⟩ := List.mem_map.1 listed
  obtain ⟨above, below, split⟩ := List.append_of_mem member
  exact ((mem_scan_iff once split).1 part).1

section

variable {limit : Nat} {pool : List String} (unites : Unites limit pool) {parts : Cover}
  (some : parts ≠ []) (once : parts.fragments.Nodup) (few : parts.length ≤ limit)
  (among : ∀ f ∈ parts.fragments, f ∈ pool)
  (spares : ∀ f ∈ parts.fragments, ∀ n ∈ negatives, ¬accepts f n)

include unites some once few among spares

theorem validate_pattern (positives : List String) :
    ∃ valid, validate parts.pattern positives negatives = .ok valid ∧
      (valid ↔ ∀ w ∈ positives, ∃ f ∈ parts.fragments, accepts f w) := by
  obtain ⟨r, read, meaning⟩ := unites parts.fragments (by simpa [fragments] using some) once
    (by simpa [fragments] using few) among
  refine ⟨r.validates positives negatives, ?_, ?_⟩
  · rw [validate, pattern, ← fragments, read]
    rfl
  · have rejects : ∀ n ∈ negatives, ¬r.isMatch n := by
      intro n negative
      rw [meaning, List.any_eq_true]
      rintro ⟨f, part, accepted⟩
      exact spares f part n negative accepted
    rw [Regex.validates_iff, and_iff_left rejects]
    simp only [meaning, List.any_eq_true]

theorem validate_pattern_of_missed {word : String} (positive : word ∈ positives)
    (missed : ∀ q ∈ parts, ¬accepts q.fragment word) :
    validate parts.pattern positives negatives = .ok false := by
  obtain ⟨valid, judged, meaning⟩ :=
    validate_pattern unites some once few among spares positives
  have invalid : valid = false := by
    rw [← Bool.not_eq_true, meaning]
    intro all
    obtain ⟨f, part, matched⟩ := all word positive
    obtain ⟨q, member, rfl⟩ := List.mem_map.1 part
    exact missed q member matched
  rw [judged, invalid]

end

theorem covered_scan_iff (scored : Pool) {word : String} (positive : word ∈ positives) :
    (∃ f ∈ (scan negatives positives scored.ranked).fragments, accepts f word) ↔
      ∃ f ∈ scored.keys, accepts f word ∧ ∀ n ∈ negatives, ¬accepts f n := by
  have keys : (scored.ranked.map (·.1)).Perm scored.keys := scored.perm_ranked.map _
  constructor
  · rintro ⟨f, part, accepted⟩
    have once := keys.nodup_iff.2 scored.nodup_keys
    exact ⟨f, (nodup_scan_ranked negatives positives scored).2 f part, accepted,
      spares_scan once part⟩
  · rintro ⟨f, key, accepted, spares⟩
    obtain ⟨e, listed, rfl⟩ := List.mem_map.1 (keys.mem_iff.2 key)
    obtain ⟨part, member, matched⟩ := covers_scan positive listed spares accepted
    exact ⟨part.fragment, List.mem_map_of_mem member, matched⟩

end

/-- What is built from a scored pool is the greedy cover of its whole ranking, and no part of it can
be spared: each has a positive that no part above it matches, so that the pattern is not valid
before its last part. It is then valid if the scored fragments allow it at all. -/
theorem build_irredundant (scored : Pool) (positives negatives : List String) (m : Matcher)
    (readable : ∀ f ∈ scored.keys, ∃ r, parse f = .ok r)
    (unites : Unites positives.length scored.keys) (honest : m.Honest) :
    ∃ c m', build scored positives negatives m = .ok (c, m') ∧ m'.Honest ∧
      scored.ranked.Perm scored.entries ∧ scored.ranked.Pairwise Pool.Outranks ∧
      c = scan negatives positives scored.ranked ∧
      IsGreedy positives negatives scored.ranked c ∧
      c.fragments.Nodup ∧ c.length ≤ positives.toFinset.card ∧
      (∀ (earlier : Cover) part later, c = earlier ++ part :: later →
        (∃ w ∈ positives, accepts part.fragment w ∧ ∀ q ∈ earlier, ¬accepts q.fragment w) ∧
        (earlier ≠ [] → validate earlier.pattern positives negatives = .ok false)) ∧
      (c ≠ [] → ∃ valid, validate c.pattern positives negatives = .ok valid ∧
        (valid ↔ ∀ w ∈ positives, ∃ f ∈ scored.keys, accepts f w ∧
          ∀ n ∈ negatives, ¬accepts f n)) := by
  obtain ⟨m', honest', built⟩ := build_eq_scan negatives scored readable unites honest
  obtain ⟨once, among⟩ := nodup_scan_ranked negatives positives scored
  have few := length_scan_le negatives positives scored.ranked
  have ranked : (scored.ranked.map (·.1)).Nodup :=
    (scored.perm_ranked.map _).nodup_iff.2 scored.nodup_keys
  have spares : ∀ f ∈ (scan negatives positives scored.ranked).fragments,
      ∀ n ∈ negatives, ¬accepts f n := fun f part => spares_scan ranked part
  refine ⟨_, m', built, honest', scored.perm_ranked, scored.pairwise_ranked, rfl,
    isGreedy_scan ranked, once, length_scan_le_card _ _ _, ?_, ?_⟩
  · intro earlier part later split
    obtain ⟨word, positive, accepted, fresh⟩ := exists_own_of_scan split
    refine ⟨⟨word, positive, accepted, fresh⟩, fun some => ?_⟩
    have inside : earlier.Sublist (scan negatives positives scored.ranked) :=
      split ▸ List.sublist_append_left earlier _
    have above : earlier.fragments.Sublist (scan negatives positives scored.ranked).fragments :=
      inside.map _
    exact validate_pattern_of_missed unites some (above.nodup once)
      (Nat.le_trans inside.length_le few) (fun f part => among f (above.mem part))
      (fun f part => spares f (above.mem part)) positive fresh
  · intro some
    obtain ⟨valid, judged, meaning⟩ :=
      validate_pattern unites some once few among spares positives
    refine ⟨valid, judged, meaning.trans ?_⟩
    exact forall₂_congr fun word positive => covered_scan_iff scored positive

theorem build_irredundant_letters :
    ∃ c m', build (.ofList [("a", 2), ("b", 1), ("ab", 1)]) ["ab", "b"] ["c"] .empty =
        .ok (c, m') ∧ c.fragments = ["a", "b"] ∧
      validate (pattern [⟨"a", 2, 1⟩]) ["ab", "b"] ["c"] = .ok false := by
  have plain : ∀ f ∈ ["a", "b", "ab"], IsPlainPattern f ∧ HasRoom f := by
    intro f listed
    have checked : ∀ f ∈ ["a", "b", "ab"], f.toList.all isPlain ∧ isRoomy f.toList := by
      decide +kernel
    exact (checked f listed).imp isPlainPattern_of_plain hasRoom_iff.2
  have among : ∀ f ∈ (Pool.ofList [("a", 2), ("b", 1), ("ab", 1)]).keys, f ∈ ["a", "b", "ab"] :=
    fun f listed => by simpa using listed
  have unites : Unites 2 ["a", "b", "ab"] := unites_of_plain plain
    (leavesRoom_of_choices [['a'], ['b'], ['a', 'b']] (by decide) (by decide +kernel))
  have readable : ∀ f ∈ ["a", "b", "ab"], ∃ r, parse f = .ok r := by
    intro f listed
    obtain ⟨⟨bs, written⟩, room⟩ := plain f listed
    exact ⟨_, written.parse_eq room⟩
  obtain ⟨c, m', built, -, -, -, scanned, -, -, -, each, -⟩ :=
    build_irredundant (.ofList [("a", 2), ("b", 1), ("ab", 1)]) ["ab", "b"] ["c"] .empty
      (fun f listed => readable f (among f listed)) (unites.of_subset among) Matcher.honest_empty
  have parts : c = [⟨"a", 2, 1⟩, ⟨"b", 1, 0⟩] := by
    rw [scanned]
    decide +kernel
  refine ⟨c, m', built, by rw [parts]; rfl, ?_⟩
  exact (each [⟨"a", 2, 1⟩] ⟨"b", 1, 0⟩ [] parts).2 (by simp)

end RegexGolf.Cover
