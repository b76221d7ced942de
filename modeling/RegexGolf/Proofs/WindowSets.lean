import RegexGolf.Proofs.FragmentSpace

/-!
Cutting is choosing stretches. The windows on a word are the stretches of the anchored word that
are short enough, and the fragments are their forms with the endings. Two counting loops, over the
places and over the lengths, find the same windows; no sum in them passes a machine word, and no
stretch leaves the text. So wider windows and more variants only add fragments, a window as long as
the text is as good as any wider one, and words are cut one by one.
-/

namespace RegexGolf

open Fragment

/-- A cutting yields what the other yields, and perhaps more. -/
structure Cutting.Within (c d : Cutting) : Prop where
  window : c.window ≤ d.window
  caseVariants : c.caseVariants → d.caseVariants
  quantifiers : c.quantifiers → d.quantifiers

namespace Fragment

/-- The sum of two numbers, if a machine word that holds numbers up to `max` has room for it. -/
def sum? (max a b : Nat) : Option Nat := if a + b ≤ max then some (a + b) else none

def stretch? (text : List Char) (start stop : Nat) : Option (List Char) :=
  if start ≤ stop ∧ stop ≤ text.length then some ((text.take stop).drop start) else none

/-- The windows that begin at one place, by their lengths; the first length that leaves the text
ends the loop. -/
def row? (max : Nat) (text : List Char) (start : Nat) : List Nat → Option (List (List Char))
  | [] => some []
  | size :: sizes => do
    let stop ← sum? max start size
    if text.length < stop then return []
    return (← stretch? text start stop) :: (← row? max text start sizes)

def rows? (max size : Nat) (text : List Char) : List Nat → Option (List (List Char))
  | [] => some []
  | start :: places => do
    return (← row? max text start (List.range' 1 size)) ++ (← rows? max size text places)

def windows? (max size : Nat) (text : List Char) : Option (List (List Char)) :=
  rows? max size text (List.range text.length)

section

variable {max : Nat} {text : List Char} (fits : text.length < max)

include fits

theorem row?_eq_some (start : Nat) {passed : Nat} (reached : start + passed ≤ text.length)
    (count : Nat) :
    row? max text start (List.range' (passed + 1) count) =
      some ((starts count (text.drop (start + passed))).map
        ((text.drop start).take passed ++ ·)) := by
  induction count generalizing passed with
  | zero => simp [row?, starts]
  | succ count ih =>
    have room : sum? max start (passed + 1) = some (start + (passed + 1)) := if_pos (by omega)
    rw [List.range'_succ, row?, room]
    by_cases leaves : text.length < start + (passed + 1)
    · have none : text.drop (start + passed) = [] := List.drop_eq_nil_of_le (by omega)
      simp [leaves, none, starts]
    · have more : start + passed < text.length := by omega
      have longer : passed < (text.drop start).length := by
        rw [List.length_drop]
        omega
      -- The next window is the stretch passed so far with one more character.
      have stretch : stretch? text start (start + (passed + 1)) =
          some ((text.drop start).take passed ++ [text[start + passed]]) := by
        rw [stretch?, if_pos (by omega), List.drop_take, Nat.add_sub_cancel_left,
          List.take_succ_eq_append_getElem longer, List.getElem_drop]
      have next := ih (Nat.le_of_not_lt leaves)
      rw [List.take_succ_eq_append_getElem longer, List.getElem_drop] at next
      rw [List.drop_eq_getElem_cons more, starts]
      simp [leaves, stretch, next, Nat.add_assoc, Function.comp_def]

theorem rows?_eq_some (size : Nat) {places : List Nat} (within : ∀ i ∈ places, i < text.length) :
    rows? max size text places = some (places.flatMap fun i => starts size (text.drop i)) := by
  induction places with
  | nil => rfl
  | cons i places ih =>
    obtain ⟨inside, within⟩ := List.forall_mem_cons.1 within
    have row : row? max text i (List.range' (0 + 1) size) = _ :=
      row?_eq_some fits i (Nat.le_of_lt inside) size
    simp only [Nat.zero_add, Nat.add_zero, List.take_zero, List.nil_append, List.map_id'] at row
    rw [rows?, row, ih within]
    rfl

end

theorem windows_eq_flatMap (size : Nat) (text : List Char) :
    windows size text = (List.range text.length).flatMap fun i => starts size (text.drop i) := by
  induction text with
  | nil => rfl
  | cons c rest ih =>
    rw [windows, ih, List.length_cons, List.range_succ_eq_map, List.flatMap_cons, List.flatMap_map]
    rfl

theorem windows?_eq_some {max : Nat} {text : List Char} (fits : text.length < max) (size : Nat) :
    windows? max size text = some (windows size text) := by
  rw [windows?, rows?_eq_some fits size fun i listed => List.mem_range.1 listed, windows_eq_flatMap]

theorem mem_forms_iff {caseVariants : Bool} {window form : List Char} :
    form ∈ forms caseVariants window ↔ form = window ∨ caseVariants ∧
      (form = Unicode.upperChars window ∨ form = Unicode.lowerChars window) := by
  cases caseVariants <;> simp [forms]

theorem mem_endings_iff {quantifiers : Bool} {ending : List Char} :
    ending ∈ endings quantifiers ↔ ending = [] ∨ quantifiers ∧
      (ending = ['+'] ∨ ending = ['*'] ∨ ending = ['?']) := by
  cases quantifiers <;> simp [endings]

theorem mem_forms_of_imp {few more : Bool} (imp : few → more) {window form : List Char}
    (taken : form ∈ forms few window) : form ∈ forms more window :=
  mem_forms_iff.2 ((mem_forms_iff.1 taken).imp id fun varied => ⟨imp varied.1, varied.2⟩)

theorem mem_endings_of_imp {few more : Bool} (imp : few → more) {ending : List Char}
    (ends : ending ∈ endings few) : ending ∈ endings more :=
  mem_endings_iff.2 ((mem_endings_iff.1 ends).imp id fun operated => ⟨imp operated.1, operated.2⟩)

section

variable {c d : Cutting} {word key : String}

theorem mem_keys_ofWord : key ∈ (ofWord c word).keys ↔ key.toList ∈ cuttings c word.toList := by
  rw [ofWord, Pool.mem_keys_ofKeys, List.mem_map]
  constructor
  · rintro ⟨cut, listed, rfl⟩
    rwa [String.toList_ofList]
  · intro listed
    exact ⟨key.toList, listed, String.ofList_toList⟩

theorem unscored_ofWord (c : Cutting) (word : String) : (ofWord c word).Unscored :=
  Pool.unscored_ofKeys _

theorem mem_keys_ofWord_of_wide (wide : min c.window (anchored word.toList).length ≤ d.window)
    (caseVariants : c.caseVariants → d.caseVariants) (quantifiers : c.quantifiers → d.quantifiers)
    (listed : key ∈ (ofWord c word).keys) : key ∈ (ofWord d word).keys := by
  rw [mem_keys_ofWord, mem_cuttings] at listed ⊢
  obtain ⟨window, form, ending, some, short, inside, taken, ends, eq⟩ := listed
  have fits : window.length ≤ d.window :=
    Nat.le_trans (Nat.le_min.2 ⟨short, inside.length_le⟩) wide
  exact ⟨window, form, ending, some, fits, inside, mem_forms_of_imp caseVariants taken,
    mem_endings_of_imp quantifiers ends, eq⟩

theorem ofWord_eq_of_wide (wide : (anchored word.toList).length ≤ c.window)
    (wide' : (anchored word.toList).length ≤ d.window)
    (caseVariants : c.caseVariants = d.caseVariants)
    (quantifiers : c.quantifiers = d.quantifiers) : ofWord c word = ofWord d word := by
  refine (unscored_ofWord c word).eq_of_mem_keys_iff (unscored_ofWord d word) fun key => ?_
  constructor
  · exact mem_keys_ofWord_of_wide (Nat.le_trans (Nat.min_le_right _ _) wide') (caseVariants ▸ id)
      (quantifiers ▸ id)
  · exact mem_keys_ofWord_of_wide (Nat.le_trans (Nat.min_le_right _ _) wide) (caseVariants ▸ id)
      (quantifiers ▸ id)

theorem mem_keys_ofWords {words : List String} :
    key ∈ (ofWords c words).keys ↔ ∃ w ∈ words, key ∈ (ofWord c w).keys := by
  simp only [ofWords, ofWord, Pool.mem_keys_ofKeys, List.mem_flatMap]

theorem unscored_foldl_merge {p : Pool} (hp : p.Unscored) (words : List String) :
    (words.foldl (fun pool w => pool.merge (ofWord c w)) p).Unscored ∧
      ∀ key, key ∈ (words.foldl (fun pool w => pool.merge (ofWord c w)) p).keys ↔
        key ∈ p.keys ∨ ∃ w ∈ words, key ∈ (ofWord c w).keys := by
  induction words generalizing p with
  | nil => simpa using hp
  | cons w words ih =>
    obtain ⟨scores, keys⟩ := ih (hp.merge (unscored_ofWord c w))
    refine ⟨scores, fun key => (keys key).trans ?_⟩
    rw [Pool.mem_keys_merge, List.exists_mem_cons_iff, or_assoc]

theorem ofWords_eq_foldl (c : Cutting) (words : List String) :
    ofWords c words = words.foldl (fun pool w => pool.merge (ofWord c w)) .empty := by
  obtain ⟨scores, keys⟩ := unscored_foldl_merge (c := c) Pool.unscored_empty words
  refine (Pool.unscored_ofKeys _).eq_of_mem_keys_iff scores fun key => ?_
  rw [keys, ← ofWords, mem_keys_ofWords]
  simp [Pool.empty, Pool.keys]

end

/-- What is cut out of a word. A fragment is a form of a stretch of the anchored word with an
ending, and none has scored; the loops that count places and lengths find the same windows as long
as the length of the text is less than the greatest number of a machine word. Wider windows and more
variants keep all fragments, windows that hold the whole text give the same ones, and words are cut
one by one. -/
theorem ofWord_by_stretches (c d : Cutting) (word : String) (words : List String) :
    (ofWord c word).Unscored ∧
    (∀ key, key ∈ (ofWord c word).keys ↔ ∃ window form ending,
      window <:+: anchored word.toList ∧ 1 ≤ window.length ∧ window.length ≤ c.window ∧
      (form = window ∨ c.caseVariants ∧
        (form = Unicode.upperChars window ∨ form = Unicode.lowerChars window)) ∧
      (ending = [] ∨ c.quantifiers ∧ (ending = ['+'] ∨ ending = ['*'] ∨ ending = ['?'])) ∧
      key.toList = form ++ ending) ∧
    (∀ max, word.length + 2 < max →
      windows? max c.window (anchored word.toList) =
        some (windows c.window (anchored word.toList))) ∧
    (c.Within d → ∀ key ∈ (ofWord c word).keys, key ∈ (ofWord d word).keys) ∧
    (word.length + 2 ≤ c.window → word.length + 2 ≤ d.window →
      c.caseVariants = d.caseVariants → c.quantifiers = d.quantifiers →
      ofWord c word = ofWord d word) ∧
    ofWords c words = words.foldl (fun pool w => pool.merge (ofWord c w)) .empty ∧
    (∀ key, key ∈ (ofWords c words).keys ↔ ∃ w ∈ words, key ∈ (ofWord c w).keys) := by
  have length : (anchored word.toList).length = word.length + 2 := by
    simp [anchored, String.length_toList]
  refine ⟨unscored_ofWord c word, fun key => ?_, fun max fits => ?_, fun within key => ?_,
    fun wide wide' => ?_, ofWords_eq_foldl c words, fun _ => mem_keys_ofWords⟩
  · rw [mem_keys_ofWord, mem_cuttings]
    simp only [mem_forms_iff, mem_endings_iff]
    constructor
    · rintro ⟨window, form, ending, some, short, inside, taken, ends, eq⟩
      exact ⟨window, form, ending, inside, List.length_pos_of_ne_nil some, short, taken, ends, eq⟩
    · rintro ⟨window, form, ending, inside, some, short, taken, ends, eq⟩
      exact ⟨window, form, ending, List.ne_nil_of_length_pos some, short, inside, taken, ends, eq⟩
  · exact windows?_eq_some (length ▸ fits) c.window
  · exact mem_keys_ofWord_of_wide (Nat.le_trans (Nat.min_le_left _ _) within.window)
      within.caseVariants within.quantifiers
  · exact ofWord_eq_of_wide (length ▸ wide) (length ▸ wide')

theorem ofWord_by_stretches_letters :
    let most := UInt64.size - 1
    windows? most most (anchored "ab".toList) = some (windows most (anchored "ab".toList)) ∧
      (∀ key ∈ (ofWord ⟨3, false, true⟩ "ab").keys, key ∈ (ofWord ⟨most, true, true⟩ "ab").keys) ∧
      ofWord ⟨most, true, true⟩ "ab" = ofWord ⟨4, true, true⟩ "ab" := by
  intro most
  have within : Cutting.Within ⟨3, false, true⟩ ⟨most, true, true⟩ := ⟨by decide, by decide, id⟩
  obtain ⟨-, -, counted, -, saturated, -⟩ :=
    ofWord_by_stretches ⟨most, true, true⟩ ⟨4, true, true⟩ "ab" []
  obtain ⟨-, -, -, grows, -⟩ := ofWord_by_stretches ⟨3, false, true⟩ ⟨most, true, true⟩ "ab" []
  exact ⟨counted most (by decide), grows within, saturated (by decide) (by decide) rfl rfl⟩

end Fragment

end RegexGolf
