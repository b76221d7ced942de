import RegexGolf.Proofs.RoundChoice
import Mathlib.Algebra.Ring.Nat

/-!
The weighted rounds on the table alone. Nothing is matched: a pick closes the places that its entry
hits. Every pick closes a place, whatever the table says, so that the rounds need no bound; and on a
table that tells the truth a pick closes as many places as it covers.
-/

namespace RegexGolf.Score.TableCover

open Regex

/-- The next pick with what it leaves open, unless nothing can be picked. -/
def next (table : CoverageTable) (positives : List String) (free : Open) : Option (Pick × Open) :=
  let hardest := (WordIndex.ofTable table positives free).hardest
  match Weighted.choose (table.map fun e => free.count e.hits).toArray hardest with
  | none => none
  | some chosen =>
    table[chosen.entry]?.map fun e =>
      let left := free.close e.hits
      (⟨e.fragment, chosen.coverage, hardest.length, hardest.head?.elim 0 fun row => row.2.length,
        left.size⟩, left)

structure Picks (table : CoverageTable) (free : Open) (e : Coverage) (pick : Pick) (left : Open) :
    Prop where
  listed : e ∈ table
  fragment : pick.fragment = e.fragment
  coverage : pick.coverage = free.count e.hits
  covers : 0 < pick.coverage
  remaining : pick.remaining = left.size
  left : left = free.close e.hits

section

variable {table : CoverageTable} {positives : List String} {free left : Open} {pick : Pick}

theorem picks_of_next (picked : next table positives free = some (pick, left)) :
    ∃ e, Picks table free e pick left := by
  simp only [next] at picked
  split at picked
  · cases picked
  · rename_i c chosen
    obtain ⟨e, listed, place, coverage, covers⟩ := Weighted.mem_of_choose_eq_some chosen
    rw [place, Option.map_some, Option.some.injEq, Prod.mk.injEq] at picked
    obtain ⟨rfl, rfl⟩ := picked
    exact ⟨e, listed, rfl, coverage, covers, rfl, rfl⟩

theorem size_lt_of_next (picked : next table positives free = some (pick, left)) :
    left.size < free.size := by
  obtain ⟨e, picks⟩ := picks_of_next picked
  rw [picks.left]
  exact Open.size_close_lt (picks.coverage ▸ picks.covers)

end

def finish (table : CoverageTable) (positives : List String) (free : Open) : Weighted :=
  if free.size = 0 then ⟨[], 0, false⟩
  else
    match _ends : next table positives free with
    | none => ⟨[], free.size, false⟩
    | some (pick, left) =>
      let rest := finish table positives left
      { rest with picks := pick :: rest.picks }
termination_by free.size
decreasing_by exact size_lt_of_next _ends

/-- The cover of a table, of which all positives are open at first. -/
def cover (table : CoverageTable) (positives : List String) : Weighted :=
  finish table positives (List.replicate positives.length true)

section

variable {table : CoverageTable} {positives : List String} {free left : Open} {pick : Pick}

theorem finish_of_size_eq_zero (closed : free.size = 0) :
    finish table positives free = ⟨[], 0, false⟩ := by
  rw [finish, if_pos closed]

theorem finish_of_next_eq_none (stops : next table positives free = none) :
    finish table positives free = ⟨[], free.size, false⟩ := by
  rw [finish]
  split
  · rename_i closed
    rw [closed]
  · split
    · rfl
    · rename_i more
      rw [stops] at more
      cases more

theorem finish_of_next (picked : next table positives free = some (pick, left)) :
    finish table positives free =
      { finish table positives left with picks := pick :: (finish table positives left).picks } := by
  have fewer := size_lt_of_next picked
  rw [finish, if_neg (by omega)]
  split
  · rename_i stops
    rw [picked] at stops
    cases stops
  · rename_i more
    rw [picked, Option.some.injEq, Prod.mk.injEq] at more
    rw [more.1, more.2]

end

/-- Picks that lead from a number of open positives to another, each closing what it covers. -/
def Accounts : Nat → List Pick → Nat → Prop
  | before, [], after => before = after
  | before, pick :: rest, after =>
    pick.coverage + pick.remaining = before ∧ Accounts pick.remaining rest after

theorem Accounts.sum_coverage {before after : Nat} {picks : List Pick}
    (h : Accounts before picks after) : (picks.map (·.coverage)).sum + after = before := by
  induction picks generalizing before with
  | nil => simpa [Accounts] using h.symm
  | cons pick rest ih =>
    have own := h.1
    have others := ih h.2
    rw [List.map_cons, List.sum_cons]
    omega

theorem Accounts.coverage_add_remaining {before after : Nat} {earlier later : List Pick}
    {pick : Pick} (h : Accounts before (earlier ++ pick :: later) after) :
    pick.coverage + pick.remaining = earlier.getLast?.elim before (·.remaining) := by
  induction earlier generalizing before with
  | nil => exact h.1
  | cons first rest ih =>
    rw [ih h.2]
    cases rest with
    | nil => rfl
    | cons second more => rw [List.getLast?_cons_cons]; rfl

theorem Accounts.uncovered {before after : Nat} {picks : List Pick}
    (h : Accounts before picks after) : picks.getLast?.elim before (·.remaining) = after := by
  induction picks generalizing before with
  | nil => exact h
  | cons first rest ih =>
    rw [← ih h.2]
    cases rest with
    | nil => rfl
    | cons second more => rw [List.getLast?_cons_cons]; rfl

variable {table : CoverageTable} {positives negatives : List String}

theorem Picks.left_eq_map (truth : Coverage.Truthful table positives negatives)
    {p : String → Bool} {e : Coverage} {pick : Pick} {left : Open}
    (h : Picks table (positives.map p) e pick left) :
    left = positives.map fun word => p word && !accepts e.fragment word := by
  rw [h.left, truth.hits e h.listed, Open.close_placesOf]

theorem Picks.coverage_add_remaining (truth : Coverage.Truthful table positives negatives)
    {p : String → Bool} {e : Coverage} {pick : Pick} {left : Open}
    (h : Picks table (positives.map p) e pick left) :
    pick.coverage + pick.remaining = Open.size (positives.map p) := by
  rw [h.coverage, h.remaining, h.left, truth.hits e h.listed, Nat.add_comm,
    ← Open.size_eq_size_close_add_count]

theorem accounts_finish (truth : Coverage.Truthful table positives negatives)
    (p : String → Bool) :
    Accounts (Open.size (positives.map p)) (finish table positives (positives.map p)).picks
      (finish table positives (positives.map p)).uncovered := by
  -- Induction on the number of open places, of which every pick leaves fewer.
  induction size : Open.size (positives.map p) using Nat.strong_induction_on generalizing p with
  | _ n ih =>
    subst size
    cases ends : next table positives (positives.map p) with
    | none =>
      rw [finish_of_next_eq_none ends]
      rfl
    | some result =>
      obtain ⟨pick, left⟩ := result
      obtain ⟨e, picks⟩ := picks_of_next ends
      have fewer := size_lt_of_next ends
      have account := picks.coverage_add_remaining truth
      have rest := picks.left_eq_map truth
      rw [finish_of_next ends]
      refine ⟨account, ?_⟩
      rw [picks.remaining, rest]
      rw [rest] at fewer
      exact ih _ fewer _ rfl

end RegexGolf.Score.TableCover
