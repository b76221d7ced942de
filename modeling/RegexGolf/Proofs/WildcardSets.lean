import Mathlib.Algebra.GroupWithZero.Nat
import Mathlib.Data.Finset.Card
import Mathlib.Data.Finset.Powerset
import RegexGolf.Proofs.FragmentSpace

/-!
Widening is choosing positions. A fragment without brackets is widened to what comes of putting
points at any set of its positions that are no anchors; a stack of half-settled variants, each of
which is put down as it stands before it is taken further, leads to the same texts. Widening a pool
depends on its fragments only, one by one, and a second time it adds nothing.
-/

namespace RegexGolf.Fragment

def replaceable (text : List Char) : Finset Nat :=
  (Finset.range text.length).filter fun i => text[i]?.any (!isAnchor ·)

def pointed (positions : Finset Nat) (text : List Char) : List Char :=
  text.mapIdx fun i c => if i ∈ positions then '.' else c

theorem mem_replaceable {text : List Char} {i : Nat} (inside : i < text.length) :
    i ∈ replaceable text ↔ isAnchor text[i] = false := by
  simp [replaceable, inside]

theorem getElem_pointed {positions : Finset Nat} {text : List Char} {i : Nat}
    (inside : i < text.length) (within : i < (pointed positions text).length) :
    (pointed positions text)[i] = if i ∈ positions then '.' else text[i] :=
  List.getElem_mapIdx

theorem length_pointed (positions : Finset Nat) (text : List Char) :
    (pointed positions text).length = text.length := List.length_mapIdx

theorem mem_widenings_iff_pointed {text wide : List Char} :
    wide ∈ widenings text ↔ ∃ s, s ⊆ replaceable text ∧ pointed s text = wide := by
  rw [mem_widenings, List.forall₂_iff_get]
  constructor
  · rintro ⟨length, along⟩
    refine ⟨(replaceable text).filter fun i => wide[i]? = some '.', Finset.filter_subset _ _, ?_⟩
    refine List.ext_getElem (by rw [length_pointed, length]) fun i _ outside => ?_
    have inside : i < text.length := length ▸ outside
    have widens : Widens text[i] wide[i] := along i inside outside
    have taken : i ∈ (replaceable text).filter (fun i => wide[i]? = some '.') ↔
        isAnchor text[i] = false ∧ wide[i] = '.' := by
      simp [mem_replaceable inside, outside]
    rw [getElem_pointed inside]
    split
    · rename_i chosen
      exact (taken.1 chosen).2.symm
    · rename_i left
      rcases widens with same | ⟨point, plain⟩
      · exact same.symm
      · exact absurd (taken.2 ⟨plain, point⟩) left
  · rintro ⟨s, subset, rfl⟩
    refine ⟨(length_pointed s text).symm, fun i inside outside => ?_⟩
    change Widens text[i] (pointed s text)[i]
    rw [getElem_pointed inside]
    split
    · rename_i chosen
      exact .inr ⟨rfl, (mem_replaceable inside).1 (subset chosen)⟩
    · exact .inl rfl

theorem toFinset_widenings (text : List Char) :
    (widenings text).toFinset = (replaceable text).powerset.image (pointed · text) := by
  ext wide
  simp only [List.mem_toFinset, Finset.mem_image, Finset.mem_powerset, mem_widenings_iff_pointed]

theorem card_toFinset_map {f : List Char → List Char} (injective : Function.Injective f)
    (texts : List (List Char)) : (texts.map f).toFinset.card = texts.toFinset.card := by
  have image : (texts.map f).toFinset = texts.toFinset.image f := by
    ext text
    simp
  rw [image, Finset.card_image_of_injective _ injective]

theorem card_widenings (text : List Char) :
    (widenings text).toFinset.card = 2 ^ text.countP fun c => !isAnchor c && c != '.' := by
  induction text with
  | nil => rfl
  | cons c rest ih =>
    have kept := card_toFinset_map (List.cons_injective (a := c)) (widenings rest)
    have replaced := card_toFinset_map (List.cons_injective (a := '.')) (widenings rest)
    rw [widenings, List.countP_cons]
    by_cases anchor : isAnchor c
    · simp [anchor, kept, ih]
    · by_cases point : c = '.'
      · subst point
        simp [anchor, kept, ih]
      · have apart : Disjoint ((widenings rest).map (c :: ·)).toFinset
            ((widenings rest).map ('.' :: ·)).toFinset := by
          rw [Finset.disjoint_left]
          simp [Ne.symm point]
        simp only [anchor, Bool.false_eq_true, if_false, List.toFinset_append,
          Finset.card_union_of_disjoint apart, kept, replaced, ih]
        simp [point, pow_succ, Nat.mul_two]

abbrev Variant := List Char × Nat

def pointAt (text : List Char) (i : Nat) : List Char :=
  text.modify i fun c => if isAnchor c then c else '.'

/-- The number of texts that a variant leads to, repetitions included. -/
def ahead (v : Variant) : Nat := 2 ^ (v.1.length - v.2 + 1) - 1

theorem ahead_of_lt {text : List Char} {i : Nat} (more : i < text.length) :
    ahead (text, i) = 1 + ahead (text, i + 1) + ahead (pointAt text i, i + 1) := by
  have rest : text.length - i = text.length - (i + 1) + 1 := by omega
  have one := Nat.one_le_two_pow (n := text.length - (i + 1))
  simp only [ahead, pointAt, List.length_modify, rest, pow_succ]
  omega

/-- The texts that a stack of variants leads to. The variant on top is put down as it stands; as
long as it has an unsettled position, it is taken up again with its next character settled, first as
it is and then with a point. -/
def explore : List Variant → List (List Char)
  | [] => []
  | (text, i) :: rest =>
    if i < text.length then text :: explore ((text, i + 1) :: (pointAt text i, i + 1) :: rest)
    else text :: explore rest
termination_by stack => (stack.map ahead).sum
decreasing_by
  · rename_i more
    simp only [List.map_cons, List.sum_cons, ahead_of_lt more]
    omega
  · have some := Nat.one_le_two_pow (n := text.length - i)
    simp only [List.map_cons, List.sum_cons, ahead, pow_succ]
    omega

theorem length_explore (stack : List Variant) :
    (explore stack).length = (stack.map ahead).sum := by
  induction stack using explore.induct with
  | case1 => simp [explore]
  | case2 text i rest more ih =>
    rw [explore, if_pos more, List.length_cons, ih]
    simp only [List.map_cons, List.sum_cons, ahead_of_lt more]
    omega
  | case3 text i rest done ih =>
    have none : text.length - i = 0 := by omega
    rw [explore, if_neg done, List.length_cons, ih]
    simp [ahead, none, Nat.add_comm]

def Leads (v : Variant) (wide : List Char) : Prop :=
  ∃ tail ∈ widenings (v.1.drop v.2), wide = v.1.take v.2 ++ tail

theorem leads_self (v : Variant) : Leads v v.1 :=
  ⟨v.1.drop v.2, mem_widenings.2 (forall₂_widens_self _), (List.take_append_drop _ _).symm⟩

theorem leads_iff_of_lt {text wide : List Char} {i : Nat} (more : i < text.length) :
    Leads (text, i) wide ↔ Leads (text, i + 1) wide ∨ Leads (pointAt text i, i + 1) wide := by
  have inside : i < (pointAt text i).length := by simpa [pointAt] using more
  have first : (pointAt text i).take i = text.take i := by
    rw [pointAt, List.take_modify, List.modify_eq_self (by simp)]
  have last : (pointAt text i)[i] = if isAnchor text[i] then text[i] else '.' := by
    simp [pointAt]
  have rest : (pointAt text i).drop (i + 1) = text.drop (i + 1) :=
    List.drop_modify_of_lt _ _ _ _ (Nat.lt_succ_self i)
  simp only [Leads, List.drop_eq_getElem_cons more, widenings, rest,
    List.take_succ_eq_append_getElem more, List.take_succ_eq_append_getElem inside, first, last,
    List.append_assoc, List.singleton_append]
  by_cases anchor : isAnchor text[i] <;> simp [anchor, or_and_right, exists_or]

theorem mem_explore {stack : List Variant} {wide : List Char} :
    wide ∈ explore stack ↔ ∃ v ∈ stack, Leads v wide := by
  induction stack using explore.induct with
  | case1 => simp [explore]
  | case2 text i rest more ih =>
    have own : wide = text → Leads (text, i) wide := by
      rintro rfl
      exact leads_self (wide, i)
    rw [explore, if_pos more, List.mem_cons, ih]
    simp only [List.exists_mem_cons_iff]
    rw [← or_assoc (b := Leads (pointAt text i, i + 1) wide), ← leads_iff_of_lt more]
    exact or_iff_right_of_imp fun same => .inl (own same)
  | case3 text i rest done ih =>
    have whole : text.length ≤ i := Nat.le_of_not_lt done
    rw [explore, if_neg done, List.mem_cons, ih, List.exists_mem_cons_iff]
    simp [Leads, List.drop_of_length_le whole, List.take_of_length_le whole, widenings]

theorem mem_explore_start {text wide : List Char} :
    wide ∈ explore [(text, 0)] ↔ wide ∈ widenings text := by
  simp [mem_explore, Leads]

theorem Widens.trans {a b c : Char} (first : Widens a b) (second : Widens b c) : Widens a c := by
  rcases second with rfl | ⟨rfl, open_⟩
  · exact first
  · rcases first with rfl | ⟨-, plain⟩
    · exact .inr ⟨rfl, open_⟩
    · exact .inr ⟨rfl, plain⟩

theorem forall₂_widens_trans {a b c : List Char} (first : List.Forall₂ Widens a b)
    (second : List.Forall₂ Widens b c) : List.Forall₂ Widens a c := by
  induction first generalizing c with
  | nil => exact second
  | cons widens _ ih =>
    cases second with
    | cons again rest => exact .cons (widens.trans again) (ih rest)

theorem mem_wildcards_trans {fragment wide wider : List Char} (first : wide ∈ wildcards fragment)
    (second : wider ∈ wildcards wide) : wider ∈ wildcards fragment := by
  by_cases bracket : hasBracket fragment
  · have same : wide = fragment := by simpa [wildcards, bracket] using first
    rwa [same] at second
  · rw [wildcards, if_neg bracket, mem_widenings]
    exact forall₂_widens_trans (forall₂_of_mem_wildcards first) (forall₂_of_mem_wildcards second)

theorem mem_keys_expand {p : Pool} {k : String} :
    k ∈ (expand p).keys ↔ ∃ f ∈ p.keys, k.toList ∈ wildcards f.toList := by
  simp only [expand, Pool.mem_keys_ofKeys, List.mem_flatMap, List.mem_map]
  constructor
  · rintro ⟨f, listed, wide, widened, rfl⟩
    exact ⟨f, listed, by rwa [String.toList_ofList]⟩
  · rintro ⟨f, listed, widened⟩
    exact ⟨f, listed, k.toList, widened, String.ofList_toList⟩

theorem unscored_expand (p : Pool) : (expand p).Unscored := Pool.unscored_ofKeys _

theorem mem_keys_expand_of_mem {p : Pool} {f : String} (listed : f ∈ p.keys) :
    f ∈ (expand p).keys := mem_keys_expand.2 ⟨f, listed, self_mem_wildcards f.toList⟩

theorem expand_merge (p q : Pool) : expand (p.merge q) = (expand p).merge (expand q) := by
  refine (unscored_expand _).eq_of_mem_keys_iff ((unscored_expand p).merge (unscored_expand q)) ?_
  intro k
  simp only [mem_keys_expand, Pool.mem_keys_merge, or_and_right, exists_or]

theorem expand_expand (p : Pool) : expand (expand p) = expand p := by
  refine (unscored_expand _).eq_of_mem_keys_iff (unscored_expand p) fun k => ?_
  constructor
  · intro listed
    obtain ⟨wide, among, wider⟩ := mem_keys_expand.1 listed
    obtain ⟨f, key, widened⟩ := mem_keys_expand.1 among
    exact mem_keys_expand.2 ⟨f, key, mem_wildcards_trans widened wider⟩
  · exact mem_keys_expand_of_mem

theorem mem_keys_expand_of_subset {p q : Pool} (subset : ∀ f ∈ p.keys, f ∈ q.keys) :
    ∀ k ∈ (expand p).keys, k ∈ (expand q).keys := by
  intro k listed
  obtain ⟨f, key, widened⟩ := mem_keys_expand.1 listed
  exact mem_keys_expand.2 ⟨f, subset f key, widened⟩

/-- What widening does to a fragment and to pools. A fragment without brackets gives one text for
every set of positions that may be replaced, those that hold a point already making no difference,
and the stack of variants puts down the same texts and is then empty. A pool is widened fragment by
fragment, whatever the scores. -/
theorem expand_by_positions (fragment : List Char) (p q : Pool) :
    (if hasBracket fragment then wildcards fragment = [fragment]
      else
        (wildcards fragment).toFinset = (replaceable fragment).powerset.image (pointed · fragment) ∧
        (wildcards fragment).toFinset.card =
          2 ^ fragment.countP (fun c => !isAnchor c && c != '.') ∧
        (explore [(fragment, 0)]).toFinset = (wildcards fragment).toFinset ∧
        (explore [(fragment, 0)]).length = 2 ^ (fragment.length + 1) - 1) ∧
    (expand p).Unscored ∧
    (∀ k, k ∈ (expand p).keys ↔ ∃ f ∈ p.keys, k.toList ∈ wildcards f.toList) ∧
    (p.keys = q.keys → expand p = expand q) ∧
    (∀ f ∈ p.keys, f ∈ (expand p).keys) ∧
    ((∀ f ∈ p.keys, f ∈ q.keys) → ∀ k ∈ (expand p).keys, k ∈ (expand q).keys) ∧
    expand (p.merge q) = (expand p).merge (expand q) ∧
    expand (expand p) = expand p := by
  refine ⟨?_, unscored_expand p, fun _ => mem_keys_expand, fun same => ?_,
    fun _ => mem_keys_expand_of_mem, mem_keys_expand_of_subset, expand_merge p q, expand_expand p⟩
  · split
    · rename_i bracket
      rw [wildcards, if_pos bracket]
    · rename_i free
      have own : wildcards fragment = widenings fragment := if_neg free
      rw [own]
      refine ⟨toFinset_widenings fragment, card_widenings fragment, ?_, ?_⟩
      · ext wide
        rw [List.mem_toFinset, List.mem_toFinset, mem_explore_start]
      · rw [length_explore]
        simp [ahead]
  · rw [expand, expand, same]

theorem expand_by_positions_letters :
    (wildcards ['^', 'a', '.', '+']).toFinset.card = 4 ∧
      ∀ k ∈ (expand (.ofList [("ab", 7)])).keys,
        k ∈ (expand (.ofList [("a.", 3), ("ab", 0)])).keys := by
  obtain ⟨texts, -, -, -, -, grows, -⟩ := expand_by_positions ['^', 'a', '.', '+']
    (.ofList [("ab", 7)]) (.ofList [("a.", 3), ("ab", 0)])
  rw [if_neg (by decide)] at texts
  exact ⟨texts.2.1, grows (by simp)⟩

end RegexGolf.Fragment
