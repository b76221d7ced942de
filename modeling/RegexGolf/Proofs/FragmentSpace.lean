import Mathlib.Data.List.Forall2
import Mathlib.Data.List.Infix
import RegexGolf.Fragment.Wildcard
import RegexGolf.Fragment.Window
import RegexGolf.Proofs.BranchMatching
import RegexGolf.Proofs.CaseForms

/-!
Which fragments there are. A fragment comes from a stretch of an anchored word, no longer than the
window, by a change of case, an ending and points in place of some characters. It is a plain pattern
unless a word holds an operator, and then there is a fragment that cannot be read.
-/

namespace RegexGolf.Fragment

open Regex

theorem mem_starts {size : Nat} {text v : List Char} :
    v ∈ starts size text ↔ v ≠ [] ∧ v.length ≤ size ∧ v <+: text := by
  induction size generalizing text v with
  | zero => cases v <;> simp [starts]
  | succ size ih =>
    cases text with
    | nil => cases v <;> simp [starts]
    | cons c rest =>
      rw [starts, List.mem_cons, List.mem_map, List.prefix_cons_iff]
      constructor
      · rintro (rfl | ⟨u, listed, rfl⟩)
        · simp
        · obtain ⟨-, short, begins⟩ := ih.1 listed
          exact ⟨by simp, by simpa using short, .inr ⟨u, rfl, begins⟩⟩
      · rintro ⟨some, short, none | ⟨u, rfl, begins⟩⟩
        · exact absurd none some
        · by_cases only : u = []
          · exact .inl (by rw [only])
          · exact .inr ⟨u, ih.2 ⟨only, by simpa using short, begins⟩, rfl⟩

theorem mem_windows {size : Nat} {text v : List Char} :
    v ∈ windows size text ↔ v ≠ [] ∧ v.length ≤ size ∧ v <:+: text := by
  induction text with
  | nil => cases v <;> simp [windows]
  | cons c rest ih =>
    rw [windows, List.mem_append, mem_starts, ih, List.infix_cons_iff]
    constructor
    · rintro (⟨some, short, begins⟩ | ⟨some, short, inside⟩)
      · exact ⟨some, short, .inl begins⟩
      · exact ⟨some, short, .inr inside⟩
    · rintro ⟨some, short, begins | inside⟩
      · exact .inl ⟨some, short, begins⟩
      · exact .inr ⟨some, short, inside⟩

def Widens (c d : Char) : Prop := d = c ∨ d = '.' ∧ isAnchor c = false

theorem mem_widenings {text wide : List Char} :
    wide ∈ widenings text ↔ List.Forall₂ Widens text wide := by
  induction text generalizing wide with
  | nil => simp [widenings]
  | cons c rest ih =>
    rw [List.forall₂_cons_left_iff, widenings]
    by_cases anchor : isAnchor c
    · simp only [anchor, if_true, List.mem_map, ih, Widens, Bool.true_eq_false, and_false, or_false]
      constructor
      · rintro ⟨tail, along, rfl⟩
        exact ⟨c, tail, rfl, along, rfl⟩
      · rintro ⟨d, tail, rfl, along, rfl⟩
        exact ⟨tail, along, rfl⟩
    · simp only [anchor, Bool.false_eq_true, if_false, List.mem_append, List.mem_map, ih, Widens,
        and_true]
      constructor
      · rintro (⟨tail, along, rfl⟩ | ⟨tail, along, rfl⟩)
        · exact ⟨c, tail, .inl rfl, along, rfl⟩
        · exact ⟨'.', tail, .inr rfl, along, rfl⟩
      · rintro ⟨d, tail, rfl | rfl, along, rfl⟩
        · exact .inl ⟨tail, along, rfl⟩
        · exact .inr ⟨tail, along, rfl⟩

theorem forall₂_append_left {r : Char → Char → Prop} {a b l : List Char} :
    List.Forall₂ r (a ++ b) l ↔
      ∃ x y, l = x ++ y ∧ List.Forall₂ r a x ∧ List.Forall₂ r b y := by
  induction a generalizing l with
  | nil => simp
  | cons c a ih =>
    simp only [List.cons_append, List.forall₂_cons_left_iff, ih]
    constructor
    · rintro ⟨d, _, first, ⟨x, y, rfl, along, rest⟩, rfl⟩
      exact ⟨d :: x, y, rfl, ⟨d, x, first, along, rfl⟩, rest⟩
    · rintro ⟨_, y, rfl, ⟨d, x, first, along, rfl⟩, rest⟩
      exact ⟨d, x ++ y, first, ⟨x, y, rfl, along, rest⟩, rfl⟩

theorem forall₂_widens_self (text : List Char) : List.Forall₂ Widens text text :=
  List.forall₂_same.2 fun _ _ => .inl rfl

theorem self_mem_wildcards (fragment : List Char) : fragment ∈ wildcards fragment := by
  unfold wildcards
  split
  · simp
  · exact mem_widenings.2 (forall₂_widens_self fragment)

theorem forall₂_of_mem_wildcards {fragment wide : List Char} (listed : wide ∈ wildcards fragment) :
    List.Forall₂ Widens fragment wide := by
  unfold wildcards at listed
  split at listed
  · rw [List.mem_singleton.1 listed]
    exact forall₂_widens_self fragment
  · exact mem_widenings.1 listed

theorem mem_of_forall₂_widens {text wide : List Char} (along : List.Forall₂ Widens text wide)
    {d : Char} (listed : d ∈ wide) : d ∈ text ∨ d = '.' := by
  induction along with
  | nil => simp at listed
  | cons widens _ ih =>
    rcases List.mem_cons.1 listed with rfl | listed
    · rcases widens with rfl | ⟨rfl, -⟩
      · exact .inl (.head _)
      · exact .inr rfl
    · exact (ih listed).imp (.tail _) id

section

variable {caseVariants : Bool} {window form : List Char}

theorem self_mem_forms (caseVariants : Bool) (window : List Char) :
    window ∈ forms caseVariants window := by
  cases caseVariants <;> simp [forms]

theorem mem_of_mem_forms (taken : form ∈ forms caseVariants window) {d : Char} (listed : d ∈ form)
    (caseless : Unicode.isCaseless d) : d ∈ window := by
  cases caseVariants with
  | false =>
    rw [List.mem_singleton.1 taken] at listed
    exact listed
  | true =>
    simp only [forms, if_true, List.mem_cons, List.not_mem_nil, or_false] at taken
    rcases taken with rfl | rfl | rfl
    · exact listed
    · exact Unicode.mem_of_mem_upperChars listed caseless
    · exact Unicode.mem_of_mem_lowerFrom listed caseless

theorem ne_nil_of_mem_forms (taken : form ∈ forms caseVariants window) (some : window ≠ []) :
    form ≠ [] := by
  cases caseVariants with
  | false => rwa [List.mem_singleton.1 taken]
  | true =>
    simp only [forms, if_true, List.mem_cons, List.not_mem_nil, or_false] at taken
    rcases taken with rfl | rfl | rfl
    · exact some
    · exact Unicode.upperChars_ne_nil some
    · exact Unicode.lowerChars_ne_nil some

end

theorem mem_endings {quantifiers : Bool} {ending : List Char} :
    ending ∈ endings quantifiers ↔
      ending = [] ∨ quantifiers = true ∧ ∃ t : Times, ending = [t.operator] := by
  cases quantifiers with
  | false => simp [endings]
  | true =>
    simp only [endings, if_true, List.mem_cons, List.not_mem_nil, or_false, true_and]
    constructor
    · rintro (rfl | rfl | rfl | rfl)
      · exact .inl rfl
      · exact .inr ⟨.atLeastOnce, rfl⟩
      · exact .inr ⟨.anyNumber, rfl⟩
      · exact .inr ⟨.atMostOnce, rfl⟩
    · rintro (rfl | ⟨_ | _ | _, rfl⟩) <;> simp [Times.operator]

/-- All fragments that a run looks at. -/
def space (c : Cutting) (words : List String) : Pool := expand (ofWords c words)

/-- How a fragment comes from a word. -/
structure Origin (c : Cutting) (word key window form ending : List Char) : Prop where
  some : window ≠ []
  short : window.length ≤ c.window
  inside : window <:+: anchored word
  taken : form ∈ forms c.caseVariants window
  ends : ending ∈ endings c.quantifiers
  widened : key ∈ wildcards (form ++ ending)

theorem mem_cuttings {c : Cutting} {word cut : List Char} :
    cut ∈ cuttings c word ↔ ∃ window form ending, window ≠ [] ∧ window.length ≤ c.window ∧
      window <:+: anchored word ∧ form ∈ forms c.caseVariants window ∧
      ending ∈ endings c.quantifiers ∧ cut = form ++ ending := by
  simp only [cuttings, List.mem_flatMap, List.mem_map, mem_windows]
  constructor
  · rintro ⟨window, ⟨some, short, inside⟩, form, taken, ending, ends, rfl⟩
    exact ⟨window, form, ending, some, short, inside, taken, ends, rfl⟩
  · rintro ⟨window, form, ending, some, short, inside, taken, ends, rfl⟩
    exact ⟨window, ⟨some, short, inside⟩, form, taken, ending, ends, rfl⟩

def texts (c : Cutting) (words : List String) : List (List Char) :=
  words.flatMap fun word => (cuttings c word.toList).flatMap wildcards

theorem mem_texts {c : Cutting} {words : List String} {key : String} :
    key ∈ (space c words).keys ↔ key.toList ∈ texts c words := by
  simp only [space, expand, ofWords, Pool.mem_keys_ofKeys, texts, List.mem_flatMap, List.mem_map]
  constructor
  · rintro ⟨_, ⟨word, listed, cut, member, rfl⟩, wide, widened, rfl⟩
    rw [String.toList_ofList] at widened ⊢
    exact ⟨word, listed, cut, member, widened⟩
  · rintro ⟨word, listed, cut, member, widened⟩
    refine ⟨_, ⟨word, listed, cut, member, rfl⟩, key.toList, ?_, String.ofList_toList⟩
    rwa [String.toList_ofList]

theorem mem_space {c : Cutting} {words : List String} {key : String} :
    key ∈ (space c words).keys ↔
      ∃ word ∈ words, ∃ window form ending,
        Origin c word.toList key.toList window form ending := by
  simp only [mem_texts, texts, List.mem_flatMap]
  constructor
  · rintro ⟨word, listed, cut, member, widened⟩
    obtain ⟨window, form, ending, some, short, inside, taken, ends, rfl⟩ := mem_cuttings.1 member
    exact ⟨word, listed, window, form, ending, some, short, inside, taken, ends, widened⟩
  · rintro ⟨word, listed, window, form, ending, o⟩
    refine ⟨word, listed, form ++ ending, ?_, o.widened⟩
    exact mem_cuttings.2 ⟨window, form, ending, o.some, o.short, o.inside, o.taken, o.ends, rfl⟩

theorem wide_of_mem_space {c : Cutting} {words : List String} {key : String}
    (listed : key ∈ (space c words).keys) : 1 ≤ c.window := by
  obtain ⟨_, -, window, _, _, o⟩ := mem_space.1 listed
  exact Nat.le_trans (List.length_pos_of_ne_nil o.some) o.short

theorem ne_empty_of_mem_space {c : Cutting} {words : List String} {key : String}
    (listed : key ∈ (space c words).keys) : key ≠ "" := by
  obtain ⟨word, -, window, form, ending, o⟩ := mem_space.1 listed
  rintro rfl
  have along := forall₂_of_mem_wildcards o.widened
  have none : form ++ ending = [] := List.forall₂_nil_right_iff.1 along
  exact ne_nil_of_mem_forms o.taken o.some (List.append_eq_nil_iff.1 none).1

theorem mem_space_of_stretch {c : Cutting} {words : List String} {word : String}
    (listed : word ∈ words) {window : List Char} (some : window ≠ [])
    (short : window.length ≤ c.window) (inside : window <:+: anchored word.toList) :
    String.ofList window ∈ (space c words).keys :=
  mem_space.2 ⟨word, listed, window, window, [], some, short, inside, self_mem_forms _ _,
    mem_endings.2 (.inl rfl), by
      rw [String.toList_ofList, List.append_nil]
      exact self_mem_wildcards window⟩

theorem mem_space_of_point {c : Cutting} {words : List String} {word : String}
    (listed : word ∈ words) (quantifiers : c.quantifiers) {window : List Char}
    (some : window ≠ []) (short : window.length ≤ c.window)
    (inside : window <:+: anchored word.toList) (plain : hasBracket window = false) :
    String.ofList (window ++ ['.']) ∈ (space c words).keys := by
  have brackets : hasBracket (window ++ ['+']) = false := by
    rw [hasBracket, List.any_append, ← hasBracket, plain]
    rfl
  refine mem_space.2 ⟨word, listed, window, window, ['+'], some, short, inside,
    self_mem_forms _ _, mem_endings.2 (.inr ⟨quantifiers, .atLeastOnce, rfl⟩), ?_⟩
  rw [String.toList_ofList, wildcards, brackets, if_neg Bool.false_ne_true, mem_widenings,
    forall₂_append_left]
  exact ⟨window, ['.'], rfl, forall₂_widens_self window, .cons (.inr ⟨rfl, by decide⟩) .nil⟩

theorem mem_anchored {word : List Char} {d : Char} :
    d ∈ anchored word ↔ d = '^' ∨ d ∈ word ∨ d = '$' := by
  simp [anchored]

/-- A word with a sign that makes some fragment of it unreadable: one that means nothing on its own,
or an alternation sign, behind which no operator may stand. -/
def HoldsOperator (c : Cutting) (word : String) : Prop :=
  (∃ d ∈ word.toList, isMeta d) ∨ c.quantifiers ∧ '|' ∈ word.toList

theorem exists_textOf {text : List Char} (free : ∀ c ∈ text, ¬isMeta c) :
    ∃ bs, bs ≠ [] ∧ text = textOf bs := by
  induction text with
  | nil => exact ⟨[⟨[], none, by simp⟩], by simp, rfl⟩
  | cons c rest ih =>
    obtain ⟨bs, some, eq⟩ := ih fun d listed => free d (.tail _ listed)
    obtain ⟨b, others, rfl⟩ := List.exists_cons_of_ne_nil some
    by_cases bar : c = '|'
    · refine ⟨⟨[], none, by simp⟩ :: b :: others, by simp, ?_⟩
      rw [bar, eq]
      simp [textOf, Branch.text, List.intercalate_cons_cons]
    · have plain : isPlain c := by
        simpa [isPlain, bar] using free c (.head _)
      refine ⟨⟨c :: b.signs, b.last, ?_⟩ :: others, by simp, ?_⟩
      · intro d listed
        rcases List.mem_cons.1 listed with rfl | listed
        · exact plain
        · exact b.plain d listed
      · subst eq
        cases others <;> simp [textOf, Branch.text, List.intercalate_cons_cons]

/-- An operator may stand behind a text of plain signs; of these it makes at most the last
superfluous. -/
theorem exists_branch_of_operator {signs : List Char} (nonempty : signs ≠ [])
    (plain : ∀ c ∈ signs, isPlain c) (t : Times) :
    ∃ b : Branch, b.text = signs ++ [t.operator] ∧
      (b.needed = signs ∨ b.needed = signs.dropLast) := by
  have whole : signs.dropLast ++ [signs.getLast nonempty] = signs :=
    List.dropLast_append_getLast nonempty
  refine ⟨⟨signs.dropLast, some (signs.getLast nonempty, t), ?_⟩, ?_, ?_⟩
  · simpa [whole] using plain
  · simp only [Branch.text, Option.toList_some, List.flatMap_singleton]
    rw [List.append_cons signs.dropLast, whole]
  · cases t with
    | atLeastOnce => exact .inl whole
    | anyNumber => exact .inr rfl
    | atMostOnce => exact .inr rfl

section

variable {c : Cutting} {word key window form ending : List Char}

theorem Origin.mem_word (o : Origin c word key window form ending) {d : Char} (listed : d ∈ form)
    (special : Unicode.isSpecial d) : d ∈ word := by
  have caseless := Unicode.isCaseless_of_isSpecial special
  rcases mem_anchored.1 (o.inside.mem (mem_of_mem_forms o.taken listed caseless)) with
    rfl | member | rfl
  · exact absurd special (by decide)
  · exact member
  · exact absurd special (by decide)

theorem Origin.isPlain_of_mem (o : Origin c word key window form ending)
    (free : ∀ d ∈ word, ¬Unicode.isSpecial d) : ∀ d ∈ form, isPlain d := by
  intro d listed
  have usual : ¬Unicode.isSpecial d := fun special => free d (o.mem_word listed special) special
  simpa [Unicode.isSpecial, isPlain] using usual

/-- A fragment of a word without special signs is one branch. Its needed signs are those of the
widened form, perhaps without the last one or with a point behind them. -/
theorem Origin.exists_branch (o : Origin c word key window form ending)
    (free : ∀ d ∈ word, ¬Unicode.isSpecial d) :
    ∃ (b : Branch) (signs : List Char), b.text = key ∧ List.Forall₂ Widens form signs ∧
      (b.needed = signs ∨ b.needed = signs.dropLast ∨
        c.quantifiers ∧ b.needed = signs ++ ['.']) := by
  have along := forall₂_of_mem_wildcards o.widened
  have plain : ∀ {signs}, List.Forall₂ Widens form signs → ∀ d ∈ signs, isPlain d := by
    intro signs widened d held
    rcases mem_of_forall₂_widens widened held with held | rfl
    · exact o.isPlain_of_mem free d held
    · decide
  rcases mem_endings.1 o.ends with rfl | ⟨quantifiers, t, rfl⟩
  · rw [List.append_nil] at along
    refine ⟨⟨key, none, ?_⟩, key, by simp [Branch.text], along, .inl rfl⟩
    simpa using plain along
  · obtain ⟨signs, rest, rfl, before, last⟩ := forall₂_append_left.1 along
    have nonempty : signs ≠ [] := by
      rintro rfl
      exact ne_nil_of_mem_forms o.taken o.some (List.forall₂_nil_right_iff.1 before)
    obtain ⟨y, _, widens, none, rfl⟩ := List.forall₂_cons_left_iff.1 last
    rw [List.forall₂_nil_left_iff.1 none]
    rcases widens with rfl | ⟨rfl, -⟩
    · obtain ⟨b, text, needed⟩ := exists_branch_of_operator nonempty (plain before) t
      exact ⟨b, signs, text, before, needed.imp id .inl⟩
    · refine ⟨⟨signs ++ ['.'], .none, ?_⟩, signs, by simp [Branch.text], before,
        .inr (.inr ⟨quantifiers, rfl⟩)⟩
      intro d held
      rw [Option.toList_none, List.map_nil, List.append_nil, List.mem_append,
        List.mem_singleton] at held
      rcases held with held | rfl
      · exact plain before d held
      · decide

end

theorem writtenAs_singleton {key : String} {b : Branch} (text : b.text = key.toList) :
    WrittenAs key [b] :=
  ⟨by simp, by rw [textOf, List.map_singleton, List.intercalate_singleton, text]⟩

variable {c : Cutting} {words : List String}

theorem exists_word_of_mem_key {key : String} (listed : key ∈ (space c words).keys) {d : Char}
    (held : d ∈ key.toList) (caseless : Unicode.isCaseless d)
    (foreign : d ∉ ['^', '$', '.', '+', '*', '?']) : ∃ word ∈ words, d ∈ word.toList := by
  obtain ⟨word, member, window, form, ending, o⟩ := mem_space.1 listed
  rcases mem_of_forall₂_widens (forall₂_of_mem_wildcards o.widened) held with held | rfl
  · rcases List.mem_append.1 held with held | held
    · rcases mem_anchored.1 (o.inside.mem (mem_of_mem_forms o.taken held caseless)) with
        rfl | held | rfl
      · exact absurd foreign (by decide)
      · exact ⟨word, member, held⟩
      · exact absurd foreign (by decide)
    · rcases mem_endings.1 o.ends with rfl | ⟨-, t, rfl⟩
      · cases held
      · rw [List.mem_singleton.1 held] at foreign
        cases t <;> exact absurd foreign (by decide)
  · exact absurd foreign (by decide)

theorem isPlainPattern_of_mem_space (free : ∀ word ∈ words, ¬HoldsOperator c word) {key : String}
    (listed : key ∈ (space c words).keys) : IsPlainPattern key := by
  obtain ⟨word, member, window, form, ending, o⟩ := mem_space.1 listed
  have literal : ∀ d ∈ word.toList, ¬isMeta d := fun d held operator =>
    free word member (.inl ⟨d, held, operator⟩)
  cases quantifiers : c.quantifiers with
  | true =>
    have usual : ∀ d ∈ word.toList, ¬Unicode.isSpecial d := by
      intro d held special
      rw [Unicode.isSpecial, Bool.or_eq_true, beq_iff_eq] at special
      rcases special with operator | rfl
      · exact literal d held operator
      · exact free word member (.inr ⟨quantifiers, held⟩)
    obtain ⟨b, -, text, -⟩ := o.exists_branch usual
    exact ⟨[b], writtenAs_singleton text⟩
  | false =>
    have bare : ending = [] := by simpa [quantifiers, endings] using o.ends
    have along := forall₂_of_mem_wildcards o.widened
    rw [bare, List.append_nil] at along
    refine exists_textOf fun d held operator => ?_
    rcases mem_of_forall₂_widens along held with held | rfl
    · have special : Unicode.isSpecial d := by simp [Unicode.isSpecial, operator]
      exact literal d (o.mem_word held special) operator
    · exact absurd operator (by decide)

theorem exists_error_of_isMeta {d : Char} (operator : isMeta d) :
    ∃ e, parse (String.ofList [d]) = .error e := by
  simp only [isMeta, List.contains_iff_mem, List.mem_cons, List.not_mem_nil, or_false] at operator
  rcases operator with rfl | rfl | rfl | rfl | rfl | rfl | rfl | rfl <;> exact ⟨_, rfl⟩

theorem exists_error_of_bar : ∃ e, parse "|+" = .error e := ⟨_, rfl⟩

theorem exists_fault_of_holdsOperator (wide : 1 ≤ c.window) {word : String}
    (listed : word ∈ words) (holds : HoldsOperator c word) :
    ∃ key ∈ (space c words).keys, ∃ e, parse key = .error e := by
  have alone : ∀ d ∈ word.toList, [d] <:+: anchored word.toList := fun d member =>
    (List.singleton_infix_iff d _).2 (mem_anchored.2 (.inr (.inl member)))
  rcases holds with ⟨d, member, operator⟩ | ⟨quantifiers, bar⟩
  · exact ⟨_, mem_space_of_stretch listed (List.cons_ne_nil d []) wide (alone d member),
      exists_error_of_isMeta operator⟩
  · refine ⟨"|+", mem_space.2 ⟨word, listed, ['|'], ['|'], ['+'], ?_⟩, exists_error_of_bar⟩
    exact ⟨by simp, wide, alone _ bar, self_mem_forms _ _,
      mem_endings.2 (.inr ⟨quantifiers, .atLeastOnce, rfl⟩), self_mem_wildcards _⟩

end RegexGolf.Fragment
