import RegexGolf.Proofs.Lines
import RegexGolf.Proofs.MaximalCoverage
import RegexGolf.Proofs.Outcome
import RegexGolf.Proofs.Placement
import RegexGolf.Proofs.Refusal

/-!
When a search succeeds, told without patterns. A positive is separable if some stretch of its
anchored text, no longer than the window, occurs in no anchored negative; with repetition operators,
whose sign may become a point, a full window counts that is followed by a character in no negative.
A search succeeds if all positives are separable, and if no change of case alters a length it
succeeds only then.
-/

namespace RegexGolf

open Regex Alternation Fragment

def isReserved (c : Char) : Bool :=
  ['\\', '.', '+', '*', '?', '(', ')', '|', '[', ']', '\x7B', '\x7D', '^', '$'].contains c

/-- A text occurs in an anchored word in front of a character of the word. -/
def FollowedIn (u word : List Char) : Prop :=
  ∃ before c after, anchored word = before ++ u ++ c :: after ∧ after ≠ []

/-- What tells a word apart from the negatives. -/
def Separable (c : Cutting) (negatives : List String) (word : String) : Prop :=
  (∃ u, u.length ≤ c.window ∧ u <:+: anchored word.toList ∧
    ∀ n ∈ negatives, ¬u <:+: anchored n.toList) ∨
  c.quantifiers ∧ ∃ u, u.length = c.window ∧ FollowedIn u word.toList ∧
    ∀ n ∈ negatives, ¬FollowedIn u n.toList

def AllSeparable (c : Cutting) (lists : WordLists) : Prop :=
  ∀ word ∈ lists.positives, Separable c lists.negatives word

theorem forall₂_admits_iff {u v : List Char} (literal : '.' ∉ u) :
    List.Forall₂ Admits u v ↔ v = u := by
  induction u generalizing v with
  | nil => simp
  | cons c u ih =>
    simp only [List.mem_cons, not_or] at literal
    simp only [List.forall₂_cons_left_iff, ih literal.2, Admits, if_neg (Ne.symm literal.1)]
    constructor
    · rintro ⟨d, w, rfl, rfl, rfl⟩
      rfl
    · rintro rfl
      exact ⟨c, u, rfl, rfl, rfl⟩

theorem occurs_iff_stretch {u text : List Char} (literal : '.' ∉ u) :
    Occurs u text ↔ u <:+: text := by
  simp only [Occurs, forall₂_admits_iff literal, exists_eq_right]

theorem forall₂_admits_point {signs v : List Char} :
    List.Forall₂ Admits (signs ++ ['.']) v ↔
      ∃ u d, v = u ++ [d] ∧ List.Forall₂ Admits signs u ∧ isAnchor d = false ∧ d ≠ '\n' := by
  rw [forall₂_append_left]
  constructor
  · rintro ⟨u, y, rfl, along, last⟩
    obtain ⟨d, rest, admits, none, rfl⟩ := List.forall₂_cons_left_iff.1 last
    rw [List.forall₂_nil_left_iff.1 none]
    exact ⟨u, d, rfl, along, by simpa [Admits] using admits⟩
  · rintro ⟨u, d, rfl, along, usual⟩
    exact ⟨u, [d], rfl, along, .cons (by simpa [Admits] using usual) .nil⟩

theorem occurs_point_iff {u text : List Char} (literal : '.' ∉ u) :
    Occurs (u ++ ['.']) text ↔ ∃ d, u ++ [d] <:+: text ∧ isAnchor d = false ∧ d ≠ '\n' := by
  simp only [Occurs, forall₂_admits_point, forall₂_admits_iff literal]
  constructor
  · rintro ⟨_, inside, _, d, rfl, rfl, usual⟩
    exact ⟨d, inside, usual⟩
  · rintro ⟨d, inside, usual⟩
    exact ⟨_, inside, u, d, rfl, rfl, usual⟩

theorem mem_word_of_between {word front after : List Char} {c : Char}
    (eq : anchored word = front ++ c :: after) (first : front ≠ []) (last : after ≠ []) :
    c ∈ word := by
  obtain ⟨d, front, rfl⟩ := List.exists_cons_of_ne_nil first
  have whole : after.dropLast ++ [after.getLast last] = after := List.dropLast_append_getLast last
  rw [anchored, List.cons_append, List.cons_append, List.cons.injEq, ← whole, ← List.cons_append,
    ← List.append_assoc] at eq
  obtain ⟨rfl, -⟩ := List.append_inj' eq.2 rfl
  simp

theorem followedIn_iff {u word : List Char} (some : u ≠ [])
    (usual : ∀ d ∈ word, isAnchor d = false ∧ d ≠ '\n') :
    FollowedIn u word ↔ ∃ d, u ++ [d] <:+: anchored word ∧ isAnchor d = false ∧ d ≠ '\n' := by
  constructor
  · rintro ⟨before, c, after, eq, more⟩
    have inside : u ++ [c] <:+: anchored word := ⟨before, after, by rw [eq]; simp⟩
    exact ⟨c, inside, usual c (mem_word_of_between eq (by simp [some]) more)⟩
  · rintro ⟨d, ⟨before, after, eq⟩, letter, -⟩
    refine ⟨before, d, after, by rw [← eq]; simp, ?_⟩
    rintro rfl
    have closing : ('^' :: word) ++ ['$'] = (before ++ u) ++ [d] := by
      rw [List.append_nil, ← List.append_assoc] at eq
      exact eq.symm
    obtain ⟨-, same⟩ := List.append_inj' closing rfl
    rw [← (List.cons.inj same).1] at letter
    cases letter

/-- Lists that the criterion speaks of: the positives hold no sign of the pattern language, the
negatives no anchor, and none a line feed. -/
structure Tame (words negatives : List String) : Prop where
  clean : ∀ w ∈ words, ∀ d ∈ w.toList, isReserved d = false ∧ d ≠ '\n'
  bare : ∀ n ∈ negatives, ∀ d ∈ n.toList, isAnchor d = false ∧ d ≠ '\n'

theorem isReserved_of_isSpecial {d : Char} (special : Unicode.isSpecial d) : isReserved d := by
  simp only [Unicode.isSpecial, isMeta, Bool.or_eq_true, List.contains_iff_mem, beq_iff_eq,
    List.mem_cons, List.not_mem_nil, or_false] at special
  rcases special with (rfl | rfl | rfl | rfl | rfl | rfl | rfl | rfl) | rfl <;> decide

theorem isReserved_of_isAnchor {d : Char} (anchor : isAnchor d) : isReserved d := by
  simp only [isAnchor, Bool.or_eq_true, beq_iff_eq] at anchor
  rcases anchor with rfl | rfl <;> decide

namespace Tame

variable {words negatives : List String} {word : String}

theorem not_reserved (h : Tame words negatives) (listed : word ∈ words) {d : Char}
    (held : d ∈ word.toList) : ¬isReserved d := by
  rw [(h.clean word listed d held).1]
  exact Bool.false_ne_true

theorem usual (h : Tame words negatives) (listed : word ∈ words) :
    ∀ d ∈ word.toList, isAnchor d = false ∧ d ≠ '\n' := by
  intro d held
  refine ⟨Bool.eq_false_iff.2 fun anchor => ?_, (h.clean word listed d held).2⟩
  exact h.not_reserved listed held (isReserved_of_isAnchor anchor)

theorem free (h : Tame words negatives) (listed : word ∈ words) :
    ∀ d ∈ word.toList, ¬Unicode.isSpecial d := fun _ held special =>
  h.not_reserved listed held (isReserved_of_isSpecial special)

theorem not_holdsOperator (h : Tame words negatives) (c : Cutting) :
    ∀ word ∈ words, ¬HoldsOperator c word := by
  rintro word listed (⟨d, held, operator⟩ | ⟨-, bar⟩)
  · exact h.free listed d held (by simp [Unicode.isSpecial, operator])
  · exact h.free listed '|' bar (by decide)

theorem bare_word (h : Tame words negatives) (listed : word ∈ words) : Bare word.toList :=
  fun d held => (h.usual listed d held).1

theorem bare_negative (h : Tame words negatives) (listed : word ∈ negatives) : Bare word.toList :=
  fun d held => (h.bare word listed d held).1

theorem plain (h : Tame words negatives) (listed : word ∈ words) {u : List Char}
    (inside : u <:+: anchored word.toList) : ∀ d ∈ u, isPlain d := by
  intro d held
  rcases mem_anchored.1 (inside.mem held) with rfl | member | rfl
  · decide
  · simpa [Unicode.isSpecial, isPlain] using h.free listed d member
  · decide

theorem literal (h : Tame words negatives) (listed : word ∈ words) {u : List Char}
    (inside : u <:+: anchored word.toList) {d : Char} (reserved : isReserved d)
    (usual : isAnchor d = false) : d ∉ u := by
  intro held
  rcases mem_anchored.1 (inside.mem held) with rfl | member | rfl
  · cases usual
  · exact h.not_reserved listed member reserved
  · cases usual

theorem hasBracket_eq_false (h : Tame words negatives) (listed : word ∈ words) {u : List Char}
    (inside : u <:+: anchored word.toList) : hasBracket u = false := by
  have opening : '[' ∉ u := h.literal listed inside (by decide) (by decide)
  have closing : ']' ∉ u := h.literal listed inside (by decide) (by decide)
  rw [hasBracket, List.any_eq_false]
  intro d held
  rw [Bool.or_eq_true, beq_iff_eq, beq_iff_eq]
  rintro (rfl | rfl)
  · exact opening held
  · exact closing held

end Tame

section

variable {c : Cutting} {words negatives : List String} {word : String}

theorem covered_of_stretch (tame : Tame words negatives)
    (room : ∀ key ∈ (space c words).keys, HasRoom key) (listed : word ∈ words) {u : List Char}
    (some : u ≠ []) (short : u.length ≤ c.window) (inside : u <:+: anchored word.toList)
    (apart : ∀ n ∈ negatives, ¬u <:+: anchored n.toList) : Covered c words negatives word := by
  have key : String.ofList u ∈ (space c words).keys :=
    mem_space_of_stretch listed some short inside
  have literal : '.' ∉ u := tame.literal listed inside (by decide) (by decide)
  have placed : Placed u := .of_stretch (tame.bare_word listed) inside
  have meaning : ∀ {w : String}, Bare w.toList →
      (accepts (String.ofList u) w ↔ u <:+: anchored w.toList) := by
    intro w bare
    rw [accepts_ofList_iff (tame.plain listed inside) (room _ key) placed bare,
      occurs_iff_stretch literal]
  refine ⟨_, key, (meaning (tame.bare_word listed)).2 inside, fun n negative accepted => ?_⟩
  exact apart n negative ((meaning (tame.bare_negative negative)).1 accepted)

theorem covered_of_followed (tame : Tame words negatives)
    (room : ∀ key ∈ (space c words).keys, HasRoom key) (listed : word ∈ words)
    (quantifiers : c.quantifiers) {u : List Char} (some : u ≠ []) (short : u.length ≤ c.window)
    (followed : FollowedIn u word.toList) (apart : ∀ n ∈ negatives, ¬FollowedIn u n.toList) :
    Covered c words negatives word := by
  obtain ⟨before, d, after, eq, more⟩ := followed
  have inside : u <:+: anchored word.toList := ⟨before, d :: after, eq.symm⟩
  have literal : '.' ∉ u := tame.literal listed inside (by decide) (by decide)
  have key : String.ofList (u ++ ['.']) ∈ (space c words).keys :=
    mem_space_of_point listed quantifiers some short inside (tame.hasBracket_eq_false listed inside)
  have placed : Placed (u ++ ['.']) := (Placed.of_stretch (tame.bare_word listed) inside).point
  have plain : ∀ e ∈ u ++ ['.'], isPlain e := by
    intro e held
    rcases List.mem_append.1 held with held | held
    · exact tame.plain listed inside e held
    · rw [List.mem_singleton.1 held]
      decide
  have meaning : ∀ {w : String}, (∀ e ∈ w.toList, isAnchor e = false ∧ e ≠ '\n') →
      (accepts (String.ofList (u ++ ['.'])) w ↔ FollowedIn u w.toList) := by
    intro w usual
    rw [accepts_ofList_iff plain (room _ key) placed fun e held => (usual e held).1,
      followedIn_iff some usual, occurs_point_iff literal]
  refine ⟨_, key, (meaning (tame.usual listed)).2 ⟨before, d, after, eq, more⟩, ?_⟩
  intro n negative accepted
  exact apart n negative ((meaning (tame.bare n negative)).1 accepted)

theorem covered_of_separable (tame : Tame words negatives)
    (room : ∀ key ∈ (space c words).keys, HasRoom key) (wide : 1 ≤ c.window)
    (listed : word ∈ words) (separable : Separable c negatives word) :
    Covered c words negatives word := by
  rcases separable with ⟨u, short, inside, apart⟩ | ⟨quantifiers, u, full, followed, apart⟩
  · by_cases some : u = []
    · -- The empty text occurs everywhere, so there are no negatives, and any fragment will do.
      subst some
      have none : ∀ n, n ∉ negatives := fun n negative => apart n negative List.nil_infix
      refine covered_of_stretch tame room listed (List.cons_ne_nil '^' []) wide ⟨[], _, rfl⟩ ?_
      exact fun n negative => absurd negative (none n)
    · exact covered_of_stretch tame room listed some short inside apart
  · have some : u ≠ [] := List.ne_nil_of_length_pos (by omega)
    exact covered_of_followed tame room listed quantifiers some (by omega) followed apart

/-- What a fragment stands for if no change of case alters a length: signs no longer than the
window, or else a full window with a point behind it. -/
theorem exists_signs_of_mem_space (tame : Tame words negatives)
    (room : ∀ key ∈ (space c words).keys, HasRoom key)
    (fixed : c.caseVariants = false ∨ ∀ w ∈ words, ∀ d ∈ w.toList, d.toNat < 128) {key : String}
    (member : key ∈ (space c words).keys) :
    ∃ signs : List Char,
      (signs.length ≤ c.window ∨
        c.quantifiers ∧ ∃ front, signs = front ++ ['.'] ∧ front.length = c.window) ∧
      ∀ {w : String}, Bare w.toList → (accepts key w ↔ Occurs signs (anchored w.toList)) := by
  obtain ⟨source, among, window, form, ending, o⟩ := mem_space.1 member
  obtain ⟨b, signs, text, widened, needed⟩ := o.exists_branch (tame.free among)
  have unmoved : List.Forall₂ Keeps window form := by
    refine forall₂_keeps_of_mem_forms o.taken (fixed.imp id fun ascii d held => ?_)
    rcases mem_anchored.1 (o.inside.mem held) with rfl | inside | rfl
    · decide
    · exact ascii source among d inside
    · decide
  have kept := forall₂_keeps_widen unmoved widened
  have short : signs.length ≤ c.window := kept.length_eq ▸ o.short
  have placed : Placed signs := (Placed.of_stretch (tame.bare_word among) o.inside).of_keeps kept
  have ordered : Placed b.needed := by
    rcases needed with eq | eq | ⟨-, eq⟩
    · rwa [eq]
    · rw [eq]
      exact placed.dropLast
    · rw [eq]
      exact placed.point
  refine ⟨b.needed, ?_, accepts_iff_occurs text (room key member) ordered⟩
  rcases needed with eq | eq | ⟨quantifiers, eq⟩
  · rw [eq]
    exact .inl short
  · rw [eq, List.length_dropLast]
    exact .inl (Nat.le_trans (Nat.sub_le _ 1) short)
  · by_cases full : signs.length = c.window
    · exact .inr ⟨quantifiers, signs, eq, full⟩
    · rw [eq, List.length_append, List.length_singleton]
      exact .inl (Nat.lt_of_le_of_ne short full)

theorem separable_of_covered (tame : Tame words negatives)
    (room : ∀ key ∈ (space c words).keys, HasRoom key) (wide : 1 ≤ c.window)
    (fixed : c.caseVariants = false ∨ ∀ w ∈ words, ∀ d ∈ w.toList, d.toNat < 128)
    (listed : word ∈ words) (covered : Covered c words negatives word) :
    Separable c negatives word := by
  obtain ⟨key, member, accepted, spares⟩ := covered
  obtain ⟨signs, size, meaning⟩ := exists_signs_of_mem_space tame room fixed member
  obtain ⟨v, inside, along⟩ := (meaning (tame.bare_word listed)).1 accepted
  have apart : ∀ n ∈ negatives, ¬Occurs signs (anchored n.toList) := fun n negative occurs =>
    spares n negative ((meaning (tame.bare_negative negative)).2 occurs)
  rcases size with short | ⟨quantifiers, front, rfl, full⟩
  · refine .inl ⟨v, along.length_eq ▸ short, inside, fun n negative occurs => ?_⟩
    exact apart n negative ⟨v, occurs, along⟩
  · obtain ⟨u, d, rfl, along, usual⟩ := forall₂_admits_point.1 along
    have size : u.length = c.window := along.length_eq ▸ full
    have some : u ≠ [] := List.ne_nil_of_length_pos (by omega)
    refine .inr ⟨quantifiers, u, size, ?_, fun n negative followed => ?_⟩
    · exact (followedIn_iff some (tame.usual listed)).2 ⟨d, inside, usual⟩
    · obtain ⟨e, occurs, letter⟩ := (followedIn_iff some (tame.bare n negative)).1 followed
      exact apart n negative ⟨u ++ [e], occurs, forall₂_admits_point.2 ⟨u, e, rfl, along, letter⟩⟩

theorem eq_of_anchored_stretch {u v : List Char} (bare : Bare v)
    (inside : anchored u <:+: anchored v) : u = v := by
  have front : '^' ∉ v ++ ['$'] := by
    intro held
    rcases List.mem_append.1 held with held | held
    · exact absurd (bare _ held) (by decide)
    · simp at held
  rcases List.infix_cons_iff.1 inside with begins | inside
  · obtain ⟨after, eq⟩ := (List.cons_prefix_cons.1 begins).2
    by_cases last : after = []
    · rw [last, List.append_nil] at eq
      exact (List.append_inj' eq rfl).1
    · have whole : after.dropLast ++ [after.getLast last] = after :=
        List.dropLast_append_getLast last
      rw [← whole, ← List.append_assoc] at eq
      have inner := (List.append_inj' eq rfl).1
      have held : '$' ∈ v := by
        rw [← inner]
        simp
      exact absurd (bare _ held) (by decide)
  · exact absurd (inside.mem (by simp [anchored])) front

theorem separable_of_short (tame : Tame words negatives) (short : word.toList.length + 2 ≤ c.window)
    (other : word ∉ negatives) : Separable c negatives word := by
  have size : (anchored word.toList).length = word.toList.length + 2 := by simp [anchored]
  refine .inl ⟨anchored word.toList, by omega, List.infix_rfl, ?_⟩
  intro n negative inside
  have same := eq_of_anchored_stretch (tame.bare_negative negative) inside
  rw [String.toList_inj.1 same] at other
  exact other negative

end

namespace Synthesis

variable {lists : WordLists} {cutting : Cutting} {table : CoverageTable}

theorem exists_table_of_free (free : ∀ word ∈ lists.positives, ¬HoldsOperator cutting word)
    (room : LeavesRoom lists.positives.length (space cutting lists.positives).keys) :
    ∃ table, tableOf lists cutting = .ok table :=
  Coverage.ofFragments_of_parse fun _ listed => parse_of_free free room listed

theorem converged_iff_covered (lists : WordLists) (strategy : Strategy) (wide : 1 ≤ cutting.window)
    (some : lists.positives ≠ []) (free : ∀ word ∈ lists.positives, ¬HoldsOperator cutting word)
    (room : LeavesRoom lists.positives.length (space cutting lists.positives).keys) :
    ∃ s, run lists ⟨strategy, cutting⟩ = .ok s ∧
      (s.converged ↔ ∀ word ∈ lists.positives,
        Covered cutting lists.positives lists.negatives word) := by
  obtain ⟨table, ends⟩ := exists_table_of_free free room
  obtain ⟨s, ran, -, converged⟩ :=
    converged_of_tableOf strategy wide some ends (leavesRoom_tableOf ends room)
  refine ⟨s, ran, converged.trans ⟨fun all word positive => ?_, fun all i inside => ?_⟩⟩
  · obtain ⟨i, place⟩ := List.mem_iff_getElem?.1 positive
    exact (exists_hit_iff_covered ends place).1 (all i (List.getElem?_eq_some_iff.1 place).1)
  · have place := List.getElem?_eq_getElem inside
    exact (exists_hit_iff_covered ends place).2 (all _ (List.getElem_mem inside))

end Synthesis

theorem tame_ofLines {positive negative : String}
    (clean : ∀ line ∈ Text.Lines.split positive, ∀ d ∈ line.toList, isReserved d = false)
    (bare : ∀ line ∈ Text.Lines.split negative, ∀ d ∈ line.toList, d ≠ '^' ∧ d ≠ '$') :
    Tame (Text.Lines.split positive) (WordLists.ofLines positive negative).negatives where
  clean line listed d held := ⟨clean line listed d held, Text.Lines.ne_of_mem_split listed d held⟩
  bare line listed d held := by
    have among := (WordLists.mem_disjoint.1 listed).1
    have usual := bare line among d held
    exact ⟨by simp [isAnchor, usual.1, usual.2], Text.Lines.ne_of_mem_split among d held⟩

/-- When a search over two blocks succeeds. -/
theorem solve_iff_separable (positive negative : String) (options : Options) (hp : positive ≠ "")
    (hn : negative ≠ "") (wide : 1 ≤ options.cutting.window)
    (clean : ∀ line ∈ Text.Lines.split positive, ∀ d ∈ line.toList, isReserved d = false)
    (bare : ∀ line ∈ Text.Lines.split negative, ∀ d ∈ line.toList, d ≠ '^' ∧ d ≠ '$')
    (room : LeavesRoom (Text.Lines.split positive).length
      (space options.cutting (Text.Lines.split positive)).keys) :
    (AllSeparable options.cutting (.ofLines positive negative) →
      ∃ s, solve positive negative options = .ok s) ∧
    ((options.cutting.caseVariants = false ∨
        ∀ line ∈ Text.Lines.split positive, ∀ d ∈ line.toList, d.toNat < 128) →
      ((∃ s, solve positive negative options = .ok s) →
        AllSeparable options.cutting (.ofLines positive negative)) ∧
      (¬AllSeparable options.cutting (.ofLines positive negative) →
        ∃ bestEffort, solve positive negative options = .error (.notConverged bestEffort))) ∧
    ((∀ line ∈ Text.Lines.split positive, line.toList.length + 2 ≤ options.cutting.window) →
      ∃ s, solve positive negative options = .ok s) := by
  have tame := tame_ofLines clean bare
  have some := Text.Lines.split_ne_nil positive
  have free := tame.not_holdsOperator options.cutting
  obtain ⟨s, ran, converged⟩ := Synthesis.converged_iff_covered (.ofLines positive negative)
    options.strategy wide some free room
  have readable : ∀ key ∈ (space options.cutting (Text.Lines.split positive)).keys, HasRoom key :=
    fun key listed => by
      obtain ⟨r, read⟩ := Synthesis.parse_of_free free room listed
      exact hasRoom_of_parse read
  have told := solve_of_run hp hn ran
  have succeeds : AllSeparable options.cutting (.ofLines positive negative) →
      ∃ s, solve positive negative options = .ok s := by
    intro separable
    have valid := converged.2 fun line listed =>
      covered_of_separable tame readable wide listed (separable line listed)
    exact ⟨_, by rw [told, if_pos valid]⟩
  refine ⟨succeeds, fun fixed => ?_, fun short => ?_⟩
  · have only : s.converged → AllSeparable options.cutting (.ofLines positive negative) :=
      fun valid line listed =>
        separable_of_covered tame readable wide fixed listed (converged.1 valid line listed)
    constructor
    · rintro ⟨t, found⟩
      refine only ?_
      by_cases valid : s.converged
      · exact valid
      · rw [told, if_neg valid] at found
        cases found
    · intro apart
      exact ⟨_, by rw [told, if_neg fun valid => apart (only valid)]⟩
  · refine succeeds fun line listed => separable_of_short tame (short line listed) ?_
    exact fun negative => (WordLists.mem_disjoint.1 negative).2 listed

theorem solve_doubled_letter : ∃ s, solve "aa" "a" ⟨.weighted, ⟨1, false, true⟩⟩ = .ok s := by
  have positives : Text.Lines.split "aa" = ["aa"] := by decide +kernel
  have negatives : Text.Lines.split "a" = ["a"] := by decide +kernel
  have prepared : (WordLists.ofLines "aa" "a").negatives = ["a"] := by decide +kernel
  have room : LeavesRoom 1 (space ⟨1, false, true⟩ ["aa"]).keys :=
    leavesRoom_of_choices _ (fun _ listed => mem_texts.1 listed) (by decide +kernel)
  refine (solve_iff_separable "aa" "a" ⟨.weighted, ⟨1, false, true⟩⟩ (by decide) (by decide)
    (by decide) ?_ ?_ ?_).1 ?_
  · rw [positives]
    intro line listed d held
    rw [List.mem_singleton.1 listed] at held
    obtain rfl : d = 'a' := by simpa using held
    decide
  · rw [negatives]
    intro line listed d held
    rw [List.mem_singleton.1 listed] at held
    obtain rfl : d = 'a' := by simpa using held
    decide
  · rw [positives]
    exact room
  · rw [AllSeparable, prepared]
    -- `a` is followed by a letter in one of the words only.
    intro line listed
    rw [WordLists.ofLines, positives] at listed
    rw [List.mem_singleton.1 listed]
    refine .inr ⟨rfl, ['a'], rfl, ⟨['^'], 'a', ['$'], rfl, by simp⟩, ?_⟩
    intro n negative
    have usual : ∀ d ∈ "a".toList, isAnchor d = false ∧ d ≠ '\n' := by
      intro d held
      obtain rfl : d = 'a' := by simpa using held
      decide
    rw [List.mem_singleton.1 negative, followedIn_iff (by simp) usual]
    rintro ⟨d, inside, letter, -⟩
    rcases mem_anchored.1 (inside.mem (show d ∈ ['a'] ++ [d] by simp)) with rfl | held | rfl
    · cases letter
    · obtain rfl : d = 'a' := by simpa using held
      exact absurd inside (by decide)
    · cases letter

end RegexGolf
