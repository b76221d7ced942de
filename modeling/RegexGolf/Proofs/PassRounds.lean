import Mathlib.Logic.Relation
import RegexGolf.Score.Weighted

/-!
The rounds of a weighted pass one after the other, on any table. A pass follows the rounds until
there is nothing more to do, until one fails, or until it has played all the rounds it may; the last
is told apart from an end, since another round was still to come.
-/

namespace RegexGolf.Score.Weighted

def start (positives : List String) (m : Matcher) : Progress :=
  ⟨List.replicate positives.length true, [], [], m⟩

/-- A round leads from one progress to the next. There is a round only while positives are open. -/
def Leads (table : CoverageTable) (positives : List String) (p q : Progress) : Prop :=
  p.free.size ≠ 0 ∧ round table positives p = some (.ok q)

/-- The rounds are over: no positive is open, or nothing can be picked. -/
def Finished (table : CoverageTable) (positives : List String) (p : Progress) : Prop :=
  p.free.size = 0 ∨ round table positives p = none

def Reaches (table : CoverageTable) (positives : List String) : Progress → Progress → Prop :=
  Relation.ReflTransGen (Leads table positives)

variable {table : CoverageTable} {positives : List String} {p q : Progress}

theorem Leads.length_picks (leads : Leads table positives p q) :
    q.picks.length = p.picks.length + 1 := by
  have played := leads.2
  simp only [round] at played
  split at played
  · cases played
  · split at played
    · cases played
    · cases played
      rfl

theorem play_of_finished (finished : Finished table positives p) (rounds : Nat) :
    play table positives rounds p = .ok (⟨p.picks.reverse, p.free.size, false⟩, p.matcher) := by
  by_cases done : p.free.size = 0
  · rw [play_of_size_eq_zero done, done]
  · exact play_of_round_eq_none done (finished.resolve_left done) rounds

/-- How a pass can go: to its end, to a round that fails, or through all the rounds it may play with
another one to come. -/
theorem play_cases (table : CoverageTable) (positives : List String) (rounds : Nat)
    (p : Progress) :
    ∃ q, Reaches table positives p q ∧
      ((Finished table positives q ∧ play table positives rounds p =
          .ok (⟨q.picks.reverse, q.free.size, false⟩, q.matcher)) ∨
        (∃ e, q.free.size ≠ 0 ∧ round table positives q = some (.error e) ∧
          play table positives rounds p = .error e) ∨
        ((∃ next, Leads table positives q next) ∧
          q.picks.length = p.picks.length + rounds ∧ play table positives rounds p =
            .ok (⟨q.picks.reverse, q.free.size, true⟩, q.matcher))) := by
  by_cases done : p.free.size = 0
  · exact ⟨p, .refl, .inl ⟨.inl done, play_of_finished (.inl done) rounds⟩⟩
  · rcases played : round table positives p with _ | e | next
    · exact ⟨p, .refl, .inl ⟨.inr played, play_of_finished (.inr played) rounds⟩⟩
    · exact ⟨p, .refl, .inr (.inl ⟨e, done, played, play_of_round_error done played rounds⟩)⟩
    · have leads : Leads table positives p next := ⟨done, played⟩
      cases rounds with
      | zero =>
        exact ⟨p, .refl, .inr (.inr ⟨⟨next, leads⟩, rfl, play_zero_of_round done played⟩)⟩
      | succ rounds =>
        obtain ⟨q, reaches, ends⟩ := play_cases table positives rounds next
        refine ⟨q, .head leads reaches, ?_⟩
        rw [play_succ_of_round done played]
        rwa [leads.length_picks, Nat.add_assoc, Nat.add_comm 1] at ends

end RegexGolf.Score.Weighted
