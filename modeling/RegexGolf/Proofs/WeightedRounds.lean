import RegexGolf.Proofs.TableCover
import RegexGolf.Proofs.Union
import Mathlib.Logic.Relation

/-!
The weighted rounds on a table that tells the truth. Between two rounds the open positives are those
that no picked fragment matches, although they are found by matching the alternation of the picks
and not by the table. So a round picks and leaves open what a round on the table alone does, and
picks a fragment anew. Hence the rounds end, and the picks leave open just what the whole table
leaves open.
-/

namespace RegexGolf.Score

open Regex Alternation

namespace Weighted

structure Faithful (table : CoverageTable) (positives : List String) (p : Progress) : Prop where
  honest : p.matcher.Honest
  named : p.picks.map (·.fragment) = p.alternation
  among : ∀ f ∈ p.alternation, f ∈ table.map (·.fragment)
  once : p.alternation.Nodup
  /-- The open positives are those that no picked fragment matches. -/
  free : p.free = positives.map fun word => !p.alternation.any (accepts · word)
  few : p.alternation.length + p.free.size ≤ positives.length

variable {table : CoverageTable} {positives negatives : List String} {p q : Progress}

theorem faithful_start (table : CoverageTable) (positives : List String) {m : Matcher}
    (h : m.Honest) : Faithful table positives (start positives m) where
  honest := h
  named := rfl
  among := by simp [start]
  once := .nil
  free := by simp [start, List.map_const']
  few := by simp [start, Open.size_replicate]

theorem Faithful.has_iff (h : Faithful table positives p)
    (truth : Coverage.Truthful table positives negatives) {i : Nat} :
    p.free.has i ↔
      i < positives.length ∧ ∀ e ∈ table, e.fragment ∈ p.alternation → i ∉ e.hits := by
  rw [h.free, Open.has_map]
  constructor
  · rintro ⟨word, place, unmatched⟩
    refine ⟨(List.getElem?_eq_some_iff.1 place).1, fun e listed picked hit => ?_⟩
    obtain ⟨other, place', accepted⟩ := (truth.mem_hits listed).1 hit
    rw [place] at place'
    cases place'
    have matched : p.alternation.any (accepts · word) :=
      List.any_eq_true.2 ⟨e.fragment, picked, accepted⟩
    rw [matched] at unmatched
    cases unmatched
  · rintro ⟨inside, missed⟩
    have place := List.getElem?_eq_getElem inside
    refine ⟨positives[i], place, ?_⟩
    rw [Bool.not_eq_true', List.any_eq_false]
    intro f picked accepted
    obtain ⟨e, listed, rfl⟩ := List.mem_map.1 (h.among f picked)
    exact missed e listed picked ((truth.mem_hits listed).2 ⟨_, place, accepted⟩)

theorem Faithful.not_mem_alternation (h : Faithful table positives p)
    (truth : Coverage.Truthful table positives negatives) {e : Coverage} (listed : e ∈ table)
    (covers : 0 < p.free.count e.hits) : e.fragment ∉ p.alternation := by
  intro old
  obtain ⟨i, hit, isOpen⟩ := Open.count_pos.1 covers
  exact ((h.has_iff truth).1 isOpen).2 e listed old hit

theorem Faithful.left_eq (h : Faithful table positives p)
    (truth : Coverage.Truthful table positives negatives) {e : Coverage} {pick : Pick}
    {left : Open} (picks : TableCover.Picks table p.free e pick left) :
    left = positives.map fun word => !(e.fragment :: p.alternation).any (accepts · word) := by
  rw [h.free] at picks
  rw [picks.left_eq_map truth]
  simp only [List.any_cons, Bool.not_or, Bool.and_comm]

theorem round_eq_none_iff_next :
    round table positives p = none ↔ TableCover.next table positives p.free = none := by
  rw [round_eq_none_iff]
  cases chosen : choose (table.map fun e => p.free.count e.hits).toArray
      (WordIndex.ofTable table positives p.free).hardest with
  | none => simp [TableCover.next, chosen]
  | some c =>
    obtain ⟨e, -, place, -⟩ := mem_of_choose_eq_some chosen
    simp [TableCover.next, chosen, place]

theorem round_of_next {pick : Pick} {left : Open} {r : Regex} {m : Matcher}
    (picked : TableCover.next table positives p.free = some (pick, left))
    (found : p.matcher.regex (join (pick.fragment :: p.alternation)) = .ok (r, m))
    (matched : (positives.map fun word => !r.isMatch word) = left) :
    round table positives p =
      some (.ok ⟨left, pick.fragment :: p.alternation, pick :: p.picks, m⟩) := by
  simp only [TableCover.next] at picked
  split at picked
  · cases picked
  · rename_i c chosen
    obtain ⟨e, -, place, -⟩ := mem_of_choose_eq_some chosen
    rw [place, Option.map_some, Option.some.injEq, Prod.mk.injEq] at picked
    obtain ⟨rfl, rfl⟩ := picked
    rw [round_of_choose chosen place, found, ← matched]
    rfl

theorem round_of_next_of_error {pick : Pick} {left : Open} {e : PatternError}
    (picked : TableCover.next table positives p.free = some (pick, left))
    (fails : p.matcher.regex (join (pick.fragment :: p.alternation)) = .error e) :
    round table positives p = some (.error e) := by
  simp only [TableCover.next] at picked
  split at picked
  · cases picked
  · rename_i c chosen
    obtain ⟨d, -, place, -⟩ := mem_of_choose_eq_some chosen
    rw [place, Option.map_some, Option.some.injEq, Prod.mk.injEq] at picked
    obtain ⟨rfl, -⟩ := picked
    rw [round_of_choose chosen place, fails]
    rfl

theorem Faithful.add (h : Faithful table positives p)
    (truth : Coverage.Truthful table positives negatives) {pick : Pick} {left : Open}
    (picked : TableCover.next table positives p.free = some (pick, left)) {m : Matcher}
    (honest : m.Honest) :
    Faithful table positives ⟨left, pick.fragment :: p.alternation, pick :: p.picks, m⟩ := by
  obtain ⟨e, picks⟩ := TableCover.picks_of_next picked
  have left_eq := h.left_eq truth picks
  rw [← picks.fragment] at left_eq
  have fresh := h.not_mem_alternation truth picks.listed (picks.coverage ▸ picks.covers)
  rw [← picks.fragment] at fresh
  have among : ∀ f ∈ pick.fragment :: p.alternation, f ∈ table.map (·.fragment) := by
    intro f member
    rcases List.mem_cons.1 member with rfl | member
    · exact List.mem_map.2 ⟨e, picks.listed, picks.fragment.symm⟩
    · exact h.among f member
  have few : (pick.fragment :: p.alternation).length + left.size ≤ positives.length := by
    have fewer := TableCover.size_lt_of_next picked
    have := h.few
    rw [List.length_cons]
    omega
  have once : (pick.fragment :: p.alternation).Nodup := List.nodup_cons.2 ⟨fresh, h.once⟩
  have named : (pick :: p.picks).map (·.fragment) = pick.fragment :: p.alternation := by
    rw [List.map_cons, h.named]
  exact ⟨honest, named, among, once, left_eq, few⟩

/-- A round on a truthful table goes as on the table alone, unless the alternation cannot be
read. -/
theorem round_of_faithful (truth : Coverage.Truthful table positives negatives)
    (agrees : Agrees positives.length (table.map (·.fragment)))
    (h : Faithful table positives p) {pick : Pick} {left : Open}
    (picked : TableCover.next table positives p.free = some (pick, left)) :
    (∃ e, parse (join (pick.fragment :: p.alternation)) = .error e ∧
      round table positives p = some (.error e)) ∨
    ∃ m, m.Honest ∧ round table positives p =
      some (.ok ⟨left, pick.fragment :: p.alternation, pick :: p.picks, m⟩) := by
  cases read : parse (join (pick.fragment :: p.alternation)) with
  | error e =>
    exact .inl ⟨e, rfl, round_of_next_of_error picked (h.honest.regex_of_error read)⟩
  | ok r =>
    obtain ⟨m, honest, found⟩ := h.honest.regex_of_parse read
    have added := h.add truth picked honest
    have meaning := agrees (pick.fragment :: p.alternation) (by simp) added.once
      (Nat.le_of_add_right_le added.few) added.among r read
    have matched : (positives.map fun word => !r.isMatch word) = left := by
      simp only [meaning]
      exact added.free.symm
    exact .inr ⟨m, honest, round_of_next picked found matched⟩

theorem Finished.not_has (finished : Finished table positives p) :
    ∀ e ∈ table, ∀ i ∈ e.hits, ¬p.free.has i := by
  rcases finished with done | stuck
  · exact fun _ _ i _ => Open.has_of_size_eq_zero done i
  · exact not_has_of_choose_eq_none (round_eq_none_iff.1 stuck)

section

variable (truth : Coverage.Truthful table positives negatives)
  (agrees : Agrees positives.length (table.map (·.fragment)))

include truth agrees

theorem Faithful.step (h : Faithful table positives p) (leads : Leads table positives p q) :
    Faithful table positives q ∧ ∃ pick, q.picks = pick :: p.picks ∧
      TableCover.next table positives p.free = some (pick, q.free) := by
  cases ends : TableCover.next table positives p.free with
  | none =>
    have stuck := leads.2
    rw [round_eq_none_iff_next.2 ends] at stuck
    cases stuck
  | some result =>
    obtain ⟨pick, left⟩ := result
    have same := leads.2
    rcases round_of_faithful truth agrees h ends with ⟨e, -, fails⟩ | ⟨m, honest, played⟩
    · rw [fails] at same
      cases same
    · rw [played] at same
      cases same
      exact ⟨h.add truth ends honest, pick, rfl, rfl⟩

theorem Faithful.steps (h : Faithful table positives p) (reaches : Reaches table positives p q) :
    Faithful table positives q := by
  induction reaches with
  | refl => exact h
  | tail _ leads ih => exact (ih.step truth agrees leads).1

end

section

variable (truth : Coverage.Truthful table positives negatives)
  (unites : Unites positives.length (table.map (·.fragment)))

include truth unites

theorem Faithful.finished_or_leads (h : Faithful table positives p) :
    Finished table positives p ∨ ∃ q, Leads table positives p q := by
  by_cases done : p.free.size = 0
  · exact .inl (.inl done)
  · cases ends : TableCover.next table positives p.free with
    | none => exact .inl (.inr (round_eq_none_iff_next.2 ends))
    | some result =>
      obtain ⟨pick, left⟩ := result
      rcases round_of_faithful truth unites.agrees h ends with ⟨e, fails, -⟩ | ⟨m, -, played⟩
      · have added := h.add truth ends h.honest
        obtain ⟨r, read, -⟩ := unites (pick.fragment :: p.alternation) (by simp) added.once
          (Nat.le_of_add_right_le added.few) added.among
        rw [fails] at read
        cases read
      · exact .inr ⟨_, done, played⟩

theorem Faithful.next_of_leads (h : Faithful table positives p)
    (leads : Leads table positives p q) :
    Faithful table positives q ∧ ∃ pick, q.picks = pick :: p.picks ∧
      TableCover.next table positives p.free = some (pick, q.free) :=
  h.step truth unites.agrees leads

theorem Faithful.of_reaches (h : Faithful table positives p)
    (reaches : Reaches table positives p q) : Faithful table positives q :=
  h.steps truth unites.agrees reaches

end

/-- The fragments that a finished pass has picked are of the table, and they match every positive
that any fragment of the table matches. -/
theorem Faithful.covers_of_finished (h : Faithful table positives p)
    (truth : Coverage.Truthful table positives negatives)
    (finished : Finished table positives p) {w : Weighted}
    (picks : w.picks = p.picks.reverse) :
    (∀ f ∈ w.scores.keys, f ∈ table.map (·.fragment)) ∧
      ∀ e ∈ table, ∀ word ∈ positives, accepts e.fragment word →
        ∃ f ∈ w.scores.keys, accepts f word := by
  have keys : ∀ f, f ∈ w.scores.keys ↔ f ∈ p.alternation := by
    intro f
    rw [scores, Pool.mem_keys_ofList, ← h.named, picks]
    simp
  refine ⟨fun f member => h.among f ((keys f).1 member), ?_⟩
  intro e listed word member accepted
  obtain ⟨i, place⟩ := List.mem_iff_getElem?.1 member
  have shut := finished.not_has e listed i ((truth.mem_hits listed).2 ⟨word, place, accepted⟩)
  rw [h.free, Open.has_map] at shut
  have matched : p.alternation.any (accepts · word) := by
    cases matched : p.alternation.any (accepts · word) with
    | true => rfl
    | false => exact absurd ⟨word, place, by rw [matched]; rfl⟩ shut
  obtain ⟨f, picked, accepted⟩ := List.any_eq_true.1 matched
  exact ⟨f, (keys f).2 picked, accepted⟩

end Weighted

section

variable {table : CoverageTable} {positives negatives : List String}
  (truth : Coverage.Truthful table positives negatives) {m : Matcher} (h : m.Honest)

include truth h

/-- Where the alternations agree with their parts the rounds never run out: every pick leaves one
positive less, and there are more rounds than positives. -/
theorem weighted_cases (agrees : Agrees positives.length (table.map (·.fragment))) :
    ∃ q, Weighted.Reaches table positives (Weighted.start positives m) q ∧
      Weighted.Faithful table positives q ∧
      ((Weighted.Finished table positives q ∧ weighted table positives m =
          .ok (⟨q.picks.reverse, q.free.size, false⟩, q.matcher)) ∨
        ∃ e, q.free.size ≠ 0 ∧ Weighted.round table positives q = some (.error e) ∧
          weighted table positives m = .error e) := by
  obtain ⟨q, reaches, ends⟩ := Weighted.play_cases table positives
    ((positives.length + 1) * (table.length + 1)) (Weighted.start positives m)
  have faithful := (Weighted.faithful_start table positives h).steps truth agrees reaches
  refine ⟨q, reaches, faithful, ?_⟩
  rcases ends with ended | failed | ⟨-, played, -⟩
  · exact .inl ended
  · exact .inr failed
  · have few := faithful.few
    rw [← faithful.named, List.length_map, played] at few
    have many : positives.length < (positives.length + 1) * (table.length + 1) :=
      Nat.lt_of_lt_of_le (Nat.lt_succ_self _) (Nat.le_mul_of_pos_right _ (Nat.succ_pos _))
    omega

theorem exists_last_of_weighted (agrees : Agrees positives.length (table.map (·.fragment)))
    {m' : Matcher} {w : Weighted} (ends : weighted table positives m = .ok (w, m')) :
    ∃ q, Weighted.Reaches table positives (Weighted.start positives m) q ∧
      Weighted.Faithful table positives q ∧ Weighted.Finished table positives q ∧
      w = ⟨q.picks.reverse, q.free.size, false⟩ := by
  obtain ⟨q, reaches, faithful, ⟨finished, played⟩ | ⟨e, -, -, fails⟩⟩ :=
    weighted_cases truth h agrees
  · rw [played] at ends
    cases ends
    exact ⟨q, reaches, faithful, finished, rfl⟩
  · rw [fails] at ends
    cases ends

theorem weighted_eq_of_truthful (unites : Unites positives.length (table.map (·.fragment))) :
    ∃ q, Weighted.Reaches table positives (Weighted.start positives m) q ∧
      Weighted.Finished table positives q ∧
      weighted table positives m = .ok (⟨q.picks.reverse, q.free.size, false⟩, q.matcher) := by
  obtain ⟨q, reaches, faithful, ⟨finished, ends⟩ | ⟨e, more, fails, -⟩⟩ :=
    weighted_cases truth h unites.agrees
  · exact ⟨q, reaches, finished, ends⟩
  · rcases faithful.finished_or_leads truth unites with (done | stuck) | ⟨_, -, played⟩
    · exact absurd done more
    · rw [fails] at stuck
      cases stuck
    · rw [fails] at played
      cases played

end

end RegexGolf.Score
