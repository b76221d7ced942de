import RegexGolf.Regex.Parser

/-!
Patterns without groups, classes, escapes and counted repetitions. Such a pattern is a list of
branches with `|` between them; a branch is a text of signs that stand for one thing each, and an
operator may follow the last of them. Every such pattern is read, branch by branch, to the
expression that its signs say.
-/

namespace RegexGolf.Regex

/-- The signs that mean something only together with others. -/
def isMeta (c : Char) : Bool := ['\\', '(', ')', '[', '\x7B', '*', '+', '?'].contains c

def isPlain (c : Char) : Bool := !isMeta c && c != '|'

def ofSign : Char → Regex
  | '.' => .char (Flags.dot {})
  | '^' => .look .textStart
  | '$' => .look .textEnd
  | c => .char (.single c)

inductive Times where
  | atLeastOnce
  | anyNumber
  | atMostOnce
  deriving DecidableEq, Repr

namespace Times

def operator : Times → Char
  | atLeastOnce => '+'
  | anyNumber => '*'
  | atMostOnce => '?'

def of (t : Times) (r : Regex) : Regex :=
  match t with
  | atLeastOnce => .repeated r 1 none
  | anyNumber => .repeated r 0 none
  | atMostOnce => .repeated r 0 (some 1)

end Times

/-- What may stand between two alternation signs: plain signs and then, possibly, one that is
repeated. -/
structure Branch where
  signs : List Char
  last : Option (Char × Times)
  plain : ∀ c ∈ signs ++ last.toList.map (·.1), isPlain c

namespace Branch

def text (b : Branch) : List Char :=
  b.signs ++ b.last.toList.flatMap fun e => [e.1, e.2.operator]

def parts (b : Branch) : List Regex :=
  b.signs.map ofSign ++ b.last.toList.map fun e => e.2.of (ofSign e.1)

def regex (b : Branch) : Regex := concat b.parts

end Branch

def textOf (bs : List Branch) : List Char := ['|'].intercalate (bs.map Branch.text)

namespace Parsed

variable {α β : Type}

/-- Nothing is wrong with the meaning of a part, and it nests no more than a number of levels. -/
structure Mild (levels : Nat) (p : Parsed α) : Prop where
  issue : p.issue = none
  shallow : ∀ n, levels ≤ n → p.tooDeep n = none

theorem mild_leaf (levels : Nat) (value : α) (span : Span) : (leaf value span).Mild levels :=
  ⟨rfl, fun _ _ => rfl⟩

theorem Mild.mono {less more : Nat} {p : Parsed α} (h : p.Mild less) (le : less ≤ more) :
    p.Mild more :=
  ⟨h.issue, fun n bound => h.shallow n (Nat.le_trans le bound)⟩

theorem mild_node {levels : Nat} {children : List (Parsed α)} (value : β) (span : Span)
    (h : ∀ child ∈ children, child.Mild levels) :
    (node value span children).Mild (levels + 1) where
  issue := by
    have none : children.findSome? (·.issue) = none :=
      List.findSome?_eq_none_iff.2 fun child listed => (h child listed).issue
    simp [node, none]
  shallow n bound := by
    cases n with
    | zero => omega
    | succ n =>
      simp only [node, List.findSome?_eq_none_iff]
      exact fun child listed => (h child listed).shallow n (by omega)

end Parsed

open Parsed

/-- Between two signs of a plain pattern: the expressions of the finished branches and of the pieces
of the current one, newest first, and how deeply the pieces nest. -/
structure Reading.Holds (s : Reading) (levels : Nat) (finished pieces : List Regex) : Prop where
  flags : s.flags = {}
  pending : s.pending = []
  finished : s.current.finished.map (·.value) = finished
  pieces : s.current.pieces.map (·.value) = pieces.map some
  mild_finished : ∀ p ∈ s.current.finished, p.Mild 2
  mild_pieces : ∀ p ∈ s.current.pieces, p.Mild levels

namespace Reading

variable {s : Reading} {levels : Nat} {finished pieces : List Regex} {rest : List Char}

theorem holds_start (pattern : List Char) : (start pattern).Holds 0 [] [] :=
  ⟨rfl, rfl, rfl, rfl, by simp [start, Alternatives.opened], by simp [start, Alternatives.opened]⟩

theorem Holds.push_leaf (h : s.Holds levels finished pieces) (r : Regex) (span : Span)
    (after : Cursor) :
    (s.push (.leaf (some r) span) after).Holds levels finished (r :: pieces) where
  flags := h.flags
  pending := h.pending
  finished := h.finished
  pieces := by simp [push, Alternatives.add, h.pieces, leaf]
  mild_finished := h.mild_finished
  mild_pieces p listed := by
    rcases List.mem_cons.1 listed with rfl | listed
    · exact mild_leaf levels _ _
    · exact h.mild_pieces p listed

theorem Holds.step_sign (h : s.Holds levels finished pieces) {c : Char} (plain : isPlain c)
    (next : s.cursor.rest = c :: rest) :
    ∃ s', s.step c = .ok s' ∧ s'.Holds levels finished (ofSign c :: pieces) ∧
      s'.cursor.rest = rest := by
  have after : s.cursor.next.rest = rest := by simp [Cursor.next, next]
  unfold step
  split
  case h_1 | h_2 | h_3 | h_4 | h_5 | h_6 | h_7 | h_8 | h_9 => exact absurd plain (by decide)
  case h_10 =>
    refine ⟨_, rfl, ?_, after⟩
    simpa [dotPiece, ofSign, h.flags] using
      h.push_leaf (.char (Flags.dot {})) s.cursor.char s.cursor.next
  case h_11 =>
    refine ⟨_, rfl, ?_, after⟩
    simpa [ofSign, Flags.lineStart, h.flags] using
      h.push_leaf (.look .textStart) s.cursor.char s.cursor.next
  case h_12 =>
    refine ⟨_, rfl, ?_, after⟩
    simpa [ofSign, Flags.lineEnd, h.flags] using
      h.push_leaf (.look .textEnd) s.cursor.char s.cursor.next
  case h_13 =>
    have literal : ofSign c = .char (.single c) := by
      unfold ofSign
      split <;> first | contradiction | rfl
    refine ⟨_, rfl, ?_, after⟩
    rw [literal]
    simpa [pieceOf, h.flags, Flags.fold] using
      h.push_leaf (.char (.single c)) s.cursor.char s.cursor.next

theorem Holds.step_operator {r : Regex} (h : s.Holds levels finished (r :: pieces)) (t : Times)
    (next : s.cursor.rest = t.operator :: rest) (greedy : rest.head? ≠ some '?') :
    ∃ s', s.step t.operator = .ok s' ∧ s'.Holds (levels + 1) finished (t.of r :: pieces) ∧
      s'.cursor.rest = rest := by
  have after : s.cursor.next.rest = rest := by simp [Cursor.next, next]
  have behind : skipLazy s.cursor.next = s.cursor.next := by
    simp only [skipLazy, after, beq_iff_eq, greedy, if_false]
  obtain ⟨piece, others, listed⟩ : ∃ piece others, s.current.pieces = piece :: others := by
    cases listed : s.current.pieces with
    | nil => simpa [listed] using h.pieces
    | cons piece others => exact ⟨piece, others, rfl⟩
  have values := h.pieces
  rw [listed, List.map_cons, List.map_cons, List.cons.injEq] at values
  have mild := h.mild_pieces
  rw [listed] at mild
  have repeats : ∀ least most, ∃ s',
      s.uncounted least most = .ok s' ∧
        s'.Holds (levels + 1) finished (.repeated r least most :: pieces) ∧
        s'.cursor.rest = rest := by
    intro least most
    refine ⟨_, by simp only [uncounted, repeatLast, listed, values.1]; rfl, ?_, ?_⟩
    · exact
        { flags := h.flags
          pending := h.pending
          finished := h.finished
          pieces := by simp [node, values.2]
          mild_finished := h.mild_finished
          mild_pieces := by
            intro p new
            rcases List.mem_cons.1 new with rfl | old
            · exact mild_node _ _ (by simpa using mild piece (.head _))
            · exact (mild p (.tail _ old)).mono (Nat.le_succ levels) }
    · simp [behind, after]
  cases t with
  | atLeastOnce => exact repeats 1 none
  | anyNumber => exact repeats 0 none
  | atMostOnce => exact repeats 0 (some 1)

theorem Holds.branch (h : s.Holds 1 finished pieces) (stop : Nat) :
    (s.current.branch stop).value = concat pieces.reverse ∧ (s.current.branch stop).Mild 2 := by
  have values : s.current.pieces.reverse.map (·.value) = pieces.reverse.map some := by
    rw [List.map_reverse, h.pieces, List.map_reverse]
  have mild : ∀ p ∈ s.current.pieces.reverse, p.Mild 1 := fun p listed =>
    h.mild_pieces p (List.mem_reverse.1 listed)
  simp only [Alternatives.branch]
  generalize s.current.pieces.reverse = taken at values mild
  generalize pieces.reverse = told at values
  split
  · have : told = [] := by simpa using values.symm
    subst this
    exact ⟨rfl, mild_leaf 2 _ _⟩
  · rename_i piece
    obtain ⟨r, rfl, value⟩ : ∃ r, told = [r] ∧ piece.value = some r := by
      cases told with
      | nil => simp at values
      | cons r others =>
        rw [List.map_cons, List.map_cons, List.cons.injEq] at values
        have none : others = [] := by simpa using values.2.symm
        exact ⟨r, by rw [none], values.1⟩
    have one := mild piece (.head _)
    exact ⟨by simp [value, concat], one.issue, fun n bound => one.shallow n (by omega)⟩
  · refine ⟨?_, mild_node _ _ mild⟩
    have : taken.filterMap (·.value) = told := by
      have := congrArg (List.filterMap id) values
      simpa [List.filterMap_map] using this
    simp only [node, this]

theorem Holds.step_bar (h : s.Holds 1 finished pieces) (next : s.cursor.rest = '|' :: rest) :
    ∃ s', s.step '|' = .ok s' ∧ s'.Holds 0 (concat pieces.reverse :: finished) [] ∧
      s'.cursor.rest = rest := by
  obtain ⟨value, mild⟩ := h.branch s.cursor.pos
  refine ⟨_, rfl, ?_, by simp [Cursor.next, next]⟩
  exact
    { flags := h.flags
      pending := h.pending
      finished := by simp [Alternatives.split, value, h.finished]
      pieces := rfl
      mild_finished := by
        intro p listed
        rcases List.mem_cons.1 listed with rfl | old
        · exact mild
        · exact h.mild_finished p old
      mild_pieces := by simp [Alternatives.split] }

theorem Holds.finish (h : s.Holds 1 finished pieces) :
    ∃ whole, s.finish = .ok whole ∧
      whole.value = anyOf (finished.reverse ++ [concat pieces.reverse]) ∧ whole.Mild 3 := by
  obtain ⟨value, mild⟩ := h.branch s.cursor.pos
  refine ⟨s.current.close s.cursor.pos, by simp only [Reading.finish, h.pending], ?_⟩
  simp only [Alternatives.close]
  split
  · rename_i none
    have : finished = [] := by simpa [none] using h.finished.symm
    subst this
    exact ⟨by simp [value, anyOf], mild.mono (by omega)⟩
  · refine ⟨?_, mild_node _ _ ?_⟩
    · simp [node, value, ← h.finished]
    · intro p listed
      simp only [List.mem_append, List.mem_reverse, List.mem_singleton] at listed
      rcases listed with old | rfl
      · exact h.mild_finished p old
      · exact mild

theorem Holds.mono {more : Nat} (h : s.Holds levels finished pieces) (le : levels ≤ more) :
    s.Holds more finished pieces :=
  { h with mild_pieces := fun p listed => (h.mild_pieces p listed).mono le }

theorem Holds.loop_of_step (h : s.Holds levels finished pieces) {c : Char}
    (next : s.cursor.rest = c :: rest) {s' : Reading} (read : s.step c = .ok s') (fuel : Nat) :
    loop (fuel + 1) s = loop fuel s' := by
  have here : s.cursor.skip s.flags.verbose = s.cursor := by simp [Cursor.skip, h.flags]
  simp only [loop, here, next, read]

theorem Holds.loop_signs {signs : List Char} (h : s.Holds levels finished pieces)
    (plain : ∀ c ∈ signs, isPlain c) (next : s.cursor.rest = signs ++ rest) :
    ∃ s', s'.Holds levels finished ((signs.map ofSign).reverse ++ pieces) ∧
      s'.cursor.rest = rest ∧ ∀ fuel, loop (signs.length + fuel) s = loop fuel s' := by
  induction signs generalizing s pieces with
  | nil => exact ⟨s, h, next, fun fuel => by simp⟩
  | cons c signs ih =>
    obtain ⟨s₁, read, h₁, next₁⟩ := h.step_sign (plain c (.head _)) next
    obtain ⟨s₂, h₂, next₂, reads⟩ := ih h₁ (fun d listed => plain d (.tail _ listed)) next₁
    refine ⟨s₂, by simpa using h₂, next₂, fun fuel => ?_⟩
    rw [← reads fuel, ← h.loop_of_step next read, List.length_cons]
    congr 1
    omega

theorem Holds.loop_branch (h : s.Holds 0 finished []) (b : Branch)
    (next : s.cursor.rest = b.text ++ rest) (ends : rest.head? ≠ some '?') :
    ∃ s', s'.Holds 1 finished b.parts.reverse ∧ s'.cursor.rest = rest ∧
      ∀ fuel, loop (b.text.length + fuel) s = loop fuel s' := by
  rw [Branch.text, List.append_assoc] at next
  obtain ⟨s₁, h₁, next₁, reads₁⟩ :=
    h.loop_signs (fun c listed => b.plain c (List.mem_append_left _ listed)) next
  cases last : b.last with
  | none =>
    refine ⟨s₁, ?_, by simpa [last] using next₁, fun fuel => ?_⟩
    · simpa [Branch.parts, last] using h₁.mono (Nat.zero_le 1)
    · simpa [Branch.text, last] using reads₁ fuel
  | some repeated =>
    obtain ⟨c, t⟩ := repeated
    have plain : isPlain c := b.plain c (by simp [last])
    have next₁ : s₁.cursor.rest = c :: t.operator :: rest := by simpa [last] using next₁
    obtain ⟨s₂, read₂, h₂, next₂⟩ := h₁.step_sign plain next₁
    obtain ⟨s₃, read₃, h₃, next₃⟩ := h₂.step_operator t next₂ ends
    refine ⟨s₃, by simpa [Branch.parts, last] using h₃, next₃, fun fuel => ?_⟩
    rw [← h₂.loop_of_step next₂ read₃,
      ← h₁.loop_of_step next₁ read₂,
      ← reads₁ (fuel + 1 + 1)]
    congr 1
    simp [Branch.text, last]
    omega

theorem Holds.loop_branches (h : s.Holds 0 finished []) (b : Branch) (bs : List Branch)
    (next : s.cursor.rest = textOf (b :: bs)) {fuel : Nat}
    (enough : (textOf (b :: bs)).length < fuel) :
    ∃ whole, loop fuel s = .ok whole ∧
      whole.value = anyOf (finished.reverse ++ (b :: bs).map Branch.regex) ∧ whole.Mild 3 := by
  induction bs generalizing s b finished fuel with
  | nil =>
    rw [textOf, List.map_singleton, List.intercalate_singleton] at next enough
    obtain ⟨s₁, h₁, next₁, reads₁⟩ :=
      h.loop_branch b (next.trans (List.append_nil _).symm) (by simp)
    obtain ⟨whole, ends, value, mild⟩ := h₁.finish
    refine ⟨whole, ?_, by simpa [Branch.regex] using value, mild⟩
    obtain ⟨more, rfl⟩ := Nat.exists_eq_add_of_lt enough
    have here : s₁.cursor.skip s₁.flags.verbose = s₁.cursor := by simp [Cursor.skip, h₁.flags]
    rw [Nat.add_assoc, reads₁, loop, here, next₁]
    exact ends
  | cons d bs ih =>
    have split : textOf (b :: d :: bs) = b.text ++ '|' :: textOf (d :: bs) := by
      simp [textOf, List.intercalate_cons_cons]
    rw [split] at next enough
    obtain ⟨s₁, h₁, next₁, reads₁⟩ := h.loop_branch b next (by simp)
    obtain ⟨s₂, read₂, h₂, next₂⟩ := h₁.step_bar next₁
    obtain ⟨more, rfl⟩ : ∃ more, fuel = b.text.length + (more + 1) :=
      ⟨fuel - b.text.length - 1, by simp at enough; omega⟩
    have still : (textOf (d :: bs)).length < more := by
      rw [List.length_append, List.length_cons] at enough
      omega
    obtain ⟨whole, ends, value, mild⟩ := ih h₂ d next₂ still
    refine ⟨whole, ?_, by simpa [Branch.regex] using value, mild⟩
    rw [reads₁, h₁.loop_of_step next₁ read₂, ends]

end Reading

/-- A pattern of plain branches is read to any one of them. -/
theorem parseChars_textOf {bs : List Branch} (some : bs ≠ []) :
    parseChars (textOf bs) = .ok (anyOf (bs.map Branch.regex)) := by
  cases bs with
  | nil => exact absurd rfl some
  | cons b bs =>
    obtain ⟨whole, ends, value, mild⟩ := (Reading.holds_start (textOf (b :: bs))).loop_branches b bs
      rfl (Nat.lt_succ_self _)
    have shallow : whole.tooDeep nestLimit = none := mild.shallow nestLimit (by decide)
    simp only [parseChars, ends, bind, Except.bind, shallow, mild.issue, pure, Except.pure, value,
      List.reverse_nil, List.nil_append]

end RegexGolf.Regex
