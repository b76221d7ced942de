import Mathlib.Data.List.Induction
import Mathlib.Data.List.Basic
import RegexGolf.Proofs.CommandLine.AttachedValues

/-!
Options and files in any order. What accepted groups ask for can be told field by field: of the
groups that set the same thing the last counts, a flag counts once it stands anywhere, and the files
count in their order. So the arguments may be rearranged group by group as long as these orders are
kept, and a group may be left out when a later one sets the same thing.
-/

namespace RegexGolf.CommandLine

/-- What groups can set anew that others have set before them. -/
inductive Subject where
  | setting (s : Setting)
  | color
  deriving DecidableEq, Repr

namespace Group

def subject? : Group → Option Subject
  | set s _ => some (.setting s)
  | color _ => some .color
  | _ => none

def sets (subject : Subject) (group : Group) : Bool := group.subject? == some subject

def Tells {α : Type} (said : Group → Option α) (subject : Subject) : Prop :=
  ∀ group, group.IsSound → ((said group).isSome ↔ group.sets subject)

theorem tells_says {α : Type} {s : Setting} {reading : String → Option α}
    (valid : ∀ value, (set s value).IsSound → (reading value).isSome) :
    Tells (says? s reading) (.setting s) := by
  intro group sound
  cases group with
  | set t value =>
    by_cases same : t = s
    · subst same
      simpa [says?, sets, subject?] using valid value sound
    · simp [says?, sets, subject?, same]
  | _ => simp [says?, sets, subject?]

theorem tells_color : Tells color? .color := by
  intro group sound
  cases group <;> simp [color?, sets, subject?]

/-- Groups and others in which everything that counts is the same: the last that sets a thing, the
files in their order, and which groups there are that no other undoes. -/
structure Agree (groups others : List Group) : Prop where
  last : ∀ subject, (others.filter (sets subject)).getLast? = (groups.filter (sets subject)).getLast?
  files : others.filterMap fileName? = groups.filterMap fileName?
  flags : ∀ flag : Group, flag.subject? = none → (flag ∈ others ↔ flag ∈ groups)

theorem getLast?_filterMap_of_tells {α : Type} {said : Group → Option α} {subject : Subject}
    (tells : Tells said subject) {groups : List Group} (sound : ∀ group ∈ groups, group.IsSound) :
    (groups.filterMap said).getLast? = (groups.filter (sets subject)).getLast?.bind said := by
  induction groups using List.reverseRecOn with
  | nil => rfl
  | append_singleton groups group ih =>
    have own := tells group (sound group (by simp))
    have others := ih fun g listed => sound g (List.mem_append_left _ listed)
    rw [List.filterMap_append, List.filter_append, List.getLast?_append, List.getLast?_append,
      others]
    cases told : said group with
    | none =>
      have silent : group.sets subject = false := by simpa [told] using own
      simp [told, silent]
    | some value =>
      have speaks : group.sets subject := by simpa [told] using own
      simp [told, speaks]

end Group

namespace Request

open CommandLine.Group

theorem after_of_agree {groups others : List Group} (agree : Agree groups others)
    (sound : ∀ group ∈ groups, group.IsSound) (sound' : ∀ group ∈ others, group.IsSound)
    (r : Request) : r.after others = r.after groups := by
  have said : ∀ {α : Type} {say : Group → Option α} {subject : Subject}, Tells say subject →
      ∀ before, latest say before others = latest say before groups := by
    intro α say subject tells before
    rw [latest, latest, getLast?_filterMap_of_tells tells sound,
      getLast?_filterMap_of_tells tells sound', agree.last]
  have flag : ∀ g : Group, g.subject? = none → others.contains g = groups.contains g := by
    intro g bare
    rw [Bool.eq_iff_iff, List.contains_iff_mem, List.contains_iff_mem, agree.flags g bare]
  have puzzle : Tells (says? .puzzle some) _ := tells_says fun _ _ => rfl
  have strategy : Tells (says? .strategy strategy?) _ := tells_says fun _ sound => sound
  have window : Tells (says? .window window?) _ := tells_says fun _ sound => sound
  simp only [after, said puzzle, said strategy, said window, said tells_color, flag .verbose rfl,
    flag .noCaseVariants rfl, flag .noQuantifiers rfl, agree.files]

end Request

theorem Setting.eq_of_name_eq {s t : Setting} (same : s.name = t.name) : s = t := by
  have found := Group.setting?_name s
  rw [same, Group.setting?_name] at found
  exact (Option.some.inj found).symm

/-- The arguments of one group: an option with the value behind it, or one argument that does not
wait for a value. -/
inductive Piece where
  | pair (setting : Setting) (value : String)
  | alone (argument : String) (whole : Group.setting? argument = none)
  deriving DecidableEq

namespace Piece

def arguments : Piece → List String
  | pair s value => [s.name, value]
  | alone argument _ => [argument]

def group : Piece → Group
  | pair s value => .set s value
  | alone argument _ => .single argument

def spell (pieces : List Piece) : List String := pieces.flatMap arguments

theorem read_spell (pieces : List Piece) : Group.read (spell pieces) = pieces.map group := by
  induction pieces with
  | nil => rfl
  | cons piece rest ih =>
    cases piece with
    | pair s value =>
      exact (Group.read_cons_cons (Group.setting?_name s) value _).trans (congrArg _ ih)
    | alone argument whole =>
      exact (Group.read_cons_of_single whole _).trans (congrArg _ ih)

theorem arguments_append_inj {piece other : Piece} {rest more : List String}
    (same : piece.arguments ++ rest = other.arguments ++ more) : piece = other ∧ rest = more := by
  cases piece with
  | pair s value =>
    cases other with
    | pair t value' =>
      obtain ⟨names, rfl, later⟩ : s.name = t.name ∧ value = value' ∧ rest = more := by
        simpa [arguments] using same
      exact ⟨by rw [Setting.eq_of_name_eq names], later⟩
    | alone argument whole =>
      obtain ⟨rfl, -⟩ : s.name = argument ∧ value :: rest = more := by
        simpa [arguments] using same
      simp [Group.setting?_name] at whole
  | alone argument whole =>
    cases other with
    | pair t value =>
      obtain ⟨rfl, -⟩ : argument = t.name ∧ rest = value :: more := by
        simpa [arguments] using same
      simp [Group.setting?_name] at whole
    | alone argument' whole' =>
      obtain ⟨rfl, later⟩ : argument = argument' ∧ rest = more := by
        simpa [arguments] using same
      exact ⟨rfl, later⟩

theorem arguments_ne_nil (piece : Piece) : piece.arguments ≠ [] := by
  cases piece <;> simp [arguments]

theorem eq_of_spell_eq {pieces others : List Piece} (same : spell pieces = spell others) :
    pieces = others := by
  induction pieces generalizing others with
  | nil =>
    cases others with
    | nil => rfl
    | cons other more => simp [spell, arguments_ne_nil] at same
  | cons piece rest ih =>
    cases others with
    | nil => simp [spell, arguments_ne_nil] at same
    | cons other more =>
      obtain ⟨rfl, later⟩ := arguments_append_inj same
      rw [ih later]

theorem exists_spell {arguments : List String}
    (closed : ∀ s, Group.valueMissing s ∉ Group.read arguments) :
    ∃ pieces, spell pieces = arguments := by
  induction arguments using Group.read.induct with
  | case1 => exact ⟨[], rfl⟩
  | case2 argument s named => exact absurd (by simp [Group.read, named]) (closed s)
  | case3 argument alone => exact ⟨[.alone argument alone], rfl⟩
  | case4 argument value rest s named ih =>
    rw [Group.read_cons_cons named] at closed
    obtain ⟨pieces, rfl⟩ := ih fun t waits => closed t (.tail _ waits)
    have name : s.name = argument := by simpa using List.find?_some named
    exact ⟨.pair s value :: pieces, by simp [spell, Piece.arguments, name]⟩
  | case5 argument value rest alone ih =>
    rw [Group.read_cons_of_single alone] at closed
    obtain ⟨pieces, eq⟩ := ih fun t waits => closed t (.tail _ waits)
    exact ⟨.alone argument alone :: pieces, by rw [← eq]; rfl⟩

def sets (subject : Subject) (piece : Piece) : Bool := piece.group.sets subject

def isLasting (piece : Piece) : Bool := piece.group.subject?.isNone

/-- The same groups in another order, in which files and groups that set the same thing stand as
they stood. -/
structure Rearranges (pieces others : List Piece) : Prop where
  perm : others.Perm pieces
  files : others.filterMap (·.group.fileName?) = pieces.filterMap (·.group.fileName?)
  order : ∀ subject, others.filter (sets subject) = pieces.filter (sets subject)

/-- The same groups without some that set what a later one sets. -/
structure Trims (pieces others : List Piece) : Prop where
  sublist : others.Sublist pieces
  last : ∀ subject,
    (others.filter (sets subject)).getLast? = (pieces.filter (sets subject)).getLast?
  lasting : others.filter isLasting = pieces.filter isLasting

variable {pieces others : List Piece}

theorem filter_sets (pieces : List Piece) (subject : Subject) :
    (pieces.map group).filter (Group.sets subject) = (pieces.filter (sets subject)).map group :=
  List.filter_map

theorem filterMap_fileName? (pieces : List Piece) :
    (pieces.map group).filterMap Group.fileName? = pieces.filterMap (·.group.fileName?) :=
  List.filterMap_map

theorem Rearranges.agree (h : Rearranges pieces others) :
    Group.Agree (pieces.map group) (others.map group) where
  last subject := by rw [filter_sets, filter_sets, h.order]
  files := by rw [filterMap_fileName?, filterMap_fileName?, h.files]
  flags flag _ := (h.perm.map group).mem_iff

theorem filterMap_fileName?_of_lasting (pieces : List Piece) :
    pieces.filterMap (·.group.fileName?) =
      (pieces.filter isLasting).filterMap (·.group.fileName?) := by
  rw [List.filterMap_filter]
  refine List.filterMap_congr fun piece _ => ?_
  unfold isLasting
  cases piece.group <;> rfl

theorem Trims.agree (h : Trims pieces others) :
    Group.Agree (pieces.map group) (others.map group) where
  last subject := by rw [filter_sets, filter_sets, List.getLast?_map, List.getLast?_map, h.last]
  files := by
    rw [filterMap_fileName?, filterMap_fileName?, filterMap_fileName?_of_lasting others, h.lasting,
      ← filterMap_fileName?_of_lasting]
  flags flag bare := by
    have kept : ∀ pieces : List Piece,
        flag ∈ pieces.map group ↔ flag ∈ (pieces.filter isLasting).map group := by
      intro pieces
      simp only [List.mem_map, List.mem_filter, isLasting]
      constructor
      · rintro ⟨piece, listed, rfl⟩
        exact ⟨piece, ⟨listed, by simp [bare]⟩, rfl⟩
      · rintro ⟨piece, ⟨listed, -⟩, rfl⟩
        exact ⟨piece, listed, rfl⟩
    rw [kept others, kept pieces, h.lasting]

def isReplacedBy (piece later : Piece) : Bool := piece.group.subject?.any later.group.sets

def latestOnly : List Piece → List Piece
  | [] => []
  | piece :: rest =>
    if rest.any piece.isReplacedBy then latestOnly rest else piece :: latestOnly rest

theorem any_isReplacedBy {piece : Piece} {subject : Subject} (own : piece.sets subject)
    (rest : List Piece) :
    rest.any piece.isReplacedBy ↔ rest.filter (sets subject) ≠ [] := by
  have about : piece.group.subject? = some subject := by
    simpa [sets, Group.sets] using own
  simp [isReplacedBy, about, sets]

theorem not_isLasting_of_isReplaced {piece : Piece} {rest : List Piece}
    (replaced : rest.any piece.isReplacedBy) : piece.isLasting = false := by
  obtain ⟨later, -, named⟩ := List.any_eq_true.1 replaced
  cases about : piece.group.subject? with
  | none => simp [isReplacedBy, about] at named
  | some subject => simp [isLasting, about]

theorem filter_sets_latestOnly (pieces : List Piece) (subject : Subject) :
    (latestOnly pieces).filter (sets subject) =
      (pieces.filter (sets subject)).getLast?.toList := by
  induction pieces with
  | nil => rfl
  | cons piece rest ih =>
    rw [latestOnly]
    by_cases own : piece.sets subject
    · rw [List.filter_cons_of_pos own, List.getLast?_cons]
      by_cases only : rest.filter (sets subject) = []
      · rw [if_neg (mt (any_isReplacedBy own rest).1 (not_not_intro only)),
          List.filter_cons_of_pos own, ih, only]
        rfl
      · rw [if_pos ((any_isReplacedBy own rest).2 only), ih, List.getLast?_eq_some_getLast only]
        rfl
    · rw [List.filter_cons_of_neg own]
      split
      · exact ih
      · rw [List.filter_cons_of_neg own, ih]

theorem filter_isLasting_latestOnly (pieces : List Piece) :
    (latestOnly pieces).filter isLasting = pieces.filter isLasting := by
  induction pieces with
  | nil => rfl
  | cons piece rest ih =>
    rw [latestOnly]
    split
    · rename_i replaced
      have set : ¬piece.isLasting := by simp [not_isLasting_of_isReplaced replaced]
      rw [ih, List.filter_cons_of_neg set]
    · rw [List.filter_cons, List.filter_cons, ih]

theorem sublist_latestOnly (pieces : List Piece) : (latestOnly pieces).Sublist pieces := by
  induction pieces with
  | nil => exact .slnil
  | cons piece rest ih =>
    rw [latestOnly]
    split
    · exact ih.cons piece
    · exact ih.cons_cons piece

theorem trims_latestOnly (pieces : List Piece) : Trims pieces (latestOnly pieces) where
  sublist := sublist_latestOnly pieces
  last subject := by
    rw [filter_sets_latestOnly]
    cases (pieces.filter (sets subject)).getLast? <;> rfl
  lasting := filter_isLasting_latestOnly pieces

end Piece

/-- Arguments that ask for the same, whatever is the case at the start; so the program does the
same. -/
structure Synonymous (arguments others : List String) : Prop where
  request : ∀ start : Request,
    start.applyAll (Group.read others) = start.applyAll (Group.read arguments)
  run : ∀ s : Surroundings, s.run others = s.run arguments

open Piece

theorem synonymous_of_agree {pieces others : List Piece} {r : Request}
    (asked : Request.ofArguments (spell pieces) = .ok r)
    (agree : Group.Agree (pieces.map group) (others.map group))
    (among : ∀ piece ∈ others, piece ∈ pieces) :
    Request.ofArguments (spell others) = .ok r ∧ Synonymous (spell pieces) (spell others) := by
  have accepted := asked
  rw [Request.ofArguments, read_spell, Request.applyAll_eq_ok_iff] at accepted
  obtain ⟨sound, -⟩ := accepted
  have sound' : ∀ g ∈ others.map group, g.IsSound := by
    intro g listed
    obtain ⟨piece, member, rfl⟩ := List.mem_map.1 listed
    exact sound _ (List.mem_map_of_mem (among piece member))
  have request : ∀ start : Request,
      start.applyAll (Group.read (spell others)) = start.applyAll (Group.read (spell pieces)) := by
    intro start
    rw [read_spell, read_spell, Request.applyAll_of_isSound sound,
      Request.applyAll_of_isSound sound', Request.after_of_agree agree sound sound']
  have same : Request.ofArguments (spell others) = Request.ofArguments (spell pieces) := request {}
  refine ⟨same.trans asked, request, fun s => ?_⟩
  rw [Surroundings.run, Surroundings.run, same]

/-- Accepted arguments are cut into groups in one way. The groups may be put into any order in which
the files, and the groups that set the same thing, stand as they stood; and groups may be left out
that set what a later one sets, all of them or some. What is asked for stays the same. -/
theorem ofArguments_regrouped {arguments : List String} {r : Request}
    (asked : Request.ofArguments arguments = .ok r) :
    ∃ pieces, spell pieces = arguments ∧ (∀ others, spell others = arguments → others = pieces) ∧
      (∀ others, Rearranges pieces others ∨ Trims pieces others →
        Request.ofArguments (spell others) = .ok r ∧ Synonymous arguments (spell others)) ∧
      Request.ofArguments (spell (latestOnly pieces)) = .ok r ∧
      Synonymous arguments (spell (latestOnly pieces)) ∧
      ∀ subject, (latestOnly pieces).filter (sets subject) =
        (pieces.filter (sets subject)).getLast?.toList := by
  have accepted := asked
  rw [Request.ofArguments, Request.applyAll_eq_ok_iff] at accepted
  obtain ⟨pieces, rfl⟩ := exists_spell fun s waits => accepted.1 _ waits
  have regroup : ∀ others, Rearranges pieces others ∨ Trims pieces others →
      Request.ofArguments (spell others) = .ok r ∧ Synonymous (spell pieces) (spell others) := by
    rintro others (moved | trimmed)
    · exact synonymous_of_agree asked moved.agree fun piece => moved.perm.mem_iff.1
    · exact synonymous_of_agree asked trimmed.agree fun piece listed => trimmed.sublist.subset listed
  obtain ⟨same, synonymous⟩ := regroup _ (.inr (trims_latestOnly pieces))
  exact ⟨pieces, rfl, fun others eq => eq_of_spell_eq eq, regroup, same, synonymous,
    filter_sets_latestOnly pieces⟩

theorem ofArguments_regrouped_colors :
    let r : Request := ⟨"--no-color", ⟨.weighted, ⟨2, true, true⟩⟩, true, true, ["n", "-"]⟩
    Request.ofArguments ["-v", "--window", "3", "-", "--no-color", "--puzzle", "--no-color",
        "--window=2", "--color", "n"] = .ok r ∧
      Request.ofArguments ["--no-color", "-", "--window", "3", "n", "--color", "--window=2", "-v",
        "--puzzle", "--no-color"] = .ok r ∧
      Request.ofArguments ["-v", "-", "--puzzle", "--no-color", "--window=2", "--color", "n"] =
        .ok r := by
  intro r
  have asked : Request.ofArguments ["-v", "--window", "3", "-", "--no-color", "--puzzle",
      "--no-color", "--window=2", "--color", "n"] = .ok r := by decide +kernel
  obtain ⟨pieces, -, only, regroup, latest, -⟩ := ofArguments_regrouped asked
  have cut := only [.alone "-v" (by decide), .pair .window "3", .alone "-" (by decide),
    .alone "--no-color" (by decide), .pair .puzzle "--no-color", .alone "--window=2" (by decide),
    .alone "--color" (by decide), .alone "n" (by decide)] rfl
  subst cut
  refine ⟨asked, ?_, latest⟩
  refine (regroup [.alone "--no-color" (by decide), .alone "-" (by decide), .pair .window "3",
    .alone "n" (by decide), .alone "--color" (by decide), .alone "--window=2" (by decide),
    .alone "-v" (by decide), .pair .puzzle "--no-color"] (.inl ⟨?_, ?_, ?_⟩)).1
  · decide +kernel
  · decide +kernel
  · intro subject
    cases subject with
    | setting s => cases s <;> decide +kernel
    | color => decide +kernel

end RegexGolf.CommandLine
