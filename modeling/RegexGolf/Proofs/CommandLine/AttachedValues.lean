import Mathlib.Control.Monad.Basic
import RegexGolf.CommandLine.Program
import RegexGolf.Proofs.CommandLine.Groups

/-!
Values behind an equals sign. An option takes its value from the next argument or, in one argument
with its name, from behind an equals sign. Both forms ask for the same, whatever the value looks
like, unless it begins with the name and the sign itself: the next argument is taken as it stands,
but behind the sign every such repetition is passed over.
-/

namespace RegexGolf.CommandLine

/-- What stands before a value in one argument with the option's name. -/
def Setting.lead (s : Setting) : List Char := (s.name ++ "=").toList

theorem Setting.lead_ne_nil (s : Setting) : s.lead ≠ [] := by
  cases s <;> decide

theorem Setting.eq_of_leads {s t : Setting} {text : List Char} (first : s.lead <+: text)
    (second : t.lead <+: text) : s = t := by
  have apart : ∀ s t : Setting, s.lead <+: t.lead → s = t := by
    intro s t
    cases s <;> cases t <;> decide
  rcases List.prefix_or_prefix_of_prefix first second with inside | inside
  · exact apart s t inside
  · exact (apart t s inside).symm

namespace Group

section

variable {lead text : List Char}

theorem dropAll_of_not_begins (fuel : Nat) (other : ¬lead <+: text) :
    dropAll lead fuel text = text := by
  cases fuel with
  | zero => rfl
  | succ fuel => rw [dropAll, if_neg (by simpa using other)]

theorem dropAll_append (fuel : Nat) :
    dropAll lead (fuel + 1) (lead ++ text) = dropAll lead fuel text := by
  simp [dropAll]

theorem exists_repetitions (some : lead ≠ []) {fuel : Nat} (enough : text.length ≤ fuel) :
    ∃ n, text = (List.replicate n lead).flatten ++ dropAll lead fuel text ∧
      ¬lead <+: dropAll lead fuel text := by
  induction fuel generalizing text with
  | zero =>
    have none : text = [] := List.eq_nil_of_length_eq_zero (Nat.le_zero.1 enough)
    exact ⟨0, rfl, fun begins => some (List.prefix_nil.1 (none ▸ begins))⟩
  | succ fuel ih =>
    by_cases begins : lead <+: text
    · obtain ⟨rest, rfl⟩ := begins
      -- A repetition has at least one character, so the fuel lasts as long as the text.
      have shorter : rest.length ≤ fuel := by
        have size := List.length_pos_iff.2 some
        rw [List.length_append] at enough
        omega
      obtain ⟨n, cut, last⟩ := ih shorter
      rw [dropAll_append]
      refine ⟨n + 1, ?_, last⟩
      rw [List.replicate_succ, List.flatten_cons, List.append_assoc, ← cut]
    · rw [dropAll_of_not_begins _ begins]
      exact ⟨0, rfl, begins⟩

end

theorem single_of_mem_equals {argument : String} (sign : '=' ∈ argument.toList) {group : Group}
    (attached : [Setting.puzzle, .strategy, .window].findSome? (attached? argument) = some group) :
    single argument = group := by
  unfold single
  split
  case h_11 => rw [attached]
  all_goals exact absurd sign (by decide)

theorem setting?_of_mem_equals {argument : String} (sign : '=' ∈ argument.toList) :
    setting? argument = none := by
  refine List.find?_eq_none.2 fun s _ named => ?_
  rw [← beq_iff_eq.1 named] at sign
  cases s <;> exact absurd sign (by decide)

theorem setting?_name (s : Setting) : setting? s.name = some s := by
  cases s <;> decide

theorem toList_attached (s : Setting) (value : String) :
    (s.name ++ "=" ++ value).toList = s.lead ++ value.toList := by
  rw [String.toList_append, Setting.lead]

theorem mem_equals_attached (s : Setting) (value : String) :
    '=' ∈ (s.name ++ "=" ++ value).toList := by
  simp [String.toList_append]

theorem attached?_of_begins {s : Setting} {argument : String}
    (begins : s.lead <+: argument.toList) :
    attached? argument s =
      some (set s (.ofList (dropAll s.lead argument.toList.length argument.toList))) :=
  if_pos (List.isPrefixOf_iff_prefix.2 begins)

theorem attached?_of_not_begins {s : Setting} {argument : String}
    (other : ¬s.lead <+: argument.toList) : attached? argument s = none :=
  if_neg (mt List.isPrefixOf_iff_prefix.1 other)

theorem findSome?_attached {s : Setting} {argument : String} (begins : s.lead <+: argument.toList) :
    [Setting.puzzle, .strategy, .window].findSome? (attached? argument) = attached? argument s := by
  have others : ∀ t, t ≠ s → attached? argument t = none := fun t other =>
    attached?_of_not_begins fun leads => other (Setting.eq_of_leads leads begins)
  rw [attached?_of_begins begins]
  cases s with
  | puzzle => simp [attached?_of_begins begins]
  | strategy => simp [others .puzzle, attached?_of_begins begins]
  | window => simp [others .puzzle, others .strategy, attached?_of_begins begins]

theorem exists_bare (s : Setting) (value : String) :
    ∃ n bare, value.toList = (List.replicate n s.lead).flatten ++ bare.toList ∧
      ¬s.lead <+: bare.toList ∧ single (s.name ++ "=" ++ value) = set s bare := by
  obtain ⟨more, size⟩ : ∃ more, s.lead.length = more + 1 :=
    Nat.exists_eq_succ_of_ne_zero (mt List.eq_nil_of_length_eq_zero s.lead_ne_nil)
  have enough : value.toList.length ≤ more + value.toList.length := Nat.le_add_left _ _
  obtain ⟨n, cut, last⟩ := exists_repetitions s.lead_ne_nil enough
  have begins : s.lead <+: (s.name ++ "=" ++ value).toList := ⟨_, (toList_attached s value).symm⟩
  refine ⟨n, .ofList (dropAll s.lead (more + value.toList.length) value.toList), ?_, ?_, ?_⟩
  · rwa [String.toList_ofList]
  · rwa [String.toList_ofList]
  · refine single_of_mem_equals (mem_equals_attached s value) ?_
    rw [findSome?_attached begins, attached?_of_begins begins, toList_attached, List.length_append,
      size, Nat.add_right_comm, dropAll_append]

/-- A value behind the equals sign is taken as it stands exactly if it does not begin with the
option and the sign. -/
theorem single_attached_iff {s : Setting} {value : String} :
    single (s.name ++ "=" ++ value) = set s value ↔ ¬s.lead <+: value.toList := by
  obtain ⟨n, bare, cut, last, taken⟩ := exists_bare s value
  rw [taken]
  constructor
  · intro same
    cases same
    exact last
  · intro other
    cases n with
    | zero => rw [String.toList_inj.1 cut]
    | succ n =>
      rw [List.replicate_succ, List.flatten_cons, List.append_assoc] at cut
      exact absurd ⟨_, cut.symm⟩ other

section

variable {before : List String} (closed : ∀ setting, valueMissing setting ∉ read before)

include closed

theorem read_attached (s : Setting) (value : String) (after : List String) :
    read (before ++ (s.name ++ "=" ++ value) :: after) =
      read before ++ single (s.name ++ "=" ++ value) :: read after := by
  have alone := setting?_of_mem_equals (mem_equals_attached s value)
  rw [read_append closed, read_cons_of_single alone]

theorem read_detached (s : Setting) (value : String) (after : List String) :
    read (before ++ s.name :: value :: after) = read before ++ set s value :: read after := by
  rw [read_append closed, read_cons_cons (setting?_name s)]

end

end Group

theorem Request.refused_of_lead {s : Setting} {value : String} (valued : s ≠ .puzzle)
    (begins : s.lead <+: value.toList) (r : Request) :
    ∃ why, r.apply (.set s value) = .error (.refused why) := by
  obtain ⟨rest, cut⟩ : ∃ rest, value.toList = '-' :: rest := by
    obtain ⟨rest, eq⟩ := begins
    cases s <;> exact ⟨_, eq.symm⟩
  cases s with
  | puzzle => exact absurd rfl valued
  | strategy =>
    have unknown : strategy? value = none := by
      refine List.find?_eq_none.2 fun known _ named => ?_
      rw [← beq_iff_eq.1 named] at cut
      cases known <;> exact absurd cut (by simp [Strategy.label])
    exact ⟨.badStrategy value, by rw [Request.apply, unknown]⟩
  | window =>
    have noNumber : window? value = none := by
      rw [window?, cut]
      simp [wholeNumber?]
    exact ⟨.badWindow value, by rw [Request.apply, noNumber]⟩

namespace Surroundings

open CommandLine.Group

/-- The two forms of an option, where none before it waits for its value. One argument and two do
the same unless the value begins with the option and the sign again. If it does, one argument does
what two do for the value without these repetitions, and two are refused if the option is not the
puzzle and nothing before it ends the reading. -/
theorem run_attached (s : Surroundings) (setting : Setting) (value : String)
    (before after : List String) (closed : ∀ other, valueMissing other ∉ read before) :
    let attached := before ++ (setting.name ++ "=" ++ value) :: after
    let detached := fun value => before ++ setting.name :: value :: after
    (¬setting.lead <+: value.toList →
      Request.ofArguments attached = Request.ofArguments (detached value) ∧
        s.run attached = s.run (detached value)) ∧
    (read attached = read (detached value) ↔ ¬setting.lead <+: value.toList) ∧
    (∃ n bare, value.toList = (List.replicate n setting.lead).flatten ++ bare.toList ∧
      ¬setting.lead <+: bare.toList ∧
      Request.ofArguments attached = Request.ofArguments (detached bare) ∧
        s.run attached = s.run (detached bare)) ∧
    (setting.lead <+: value.toList → setting ≠ .puzzle →
      ∀ r, Request.applyAll {} (read before) = .ok r →
        ∃ why, Request.ofArguments (detached value) = .error (.refused why)) := by
  intro attached detached
  have alike : ∀ {value'}, single (setting.name ++ "=" ++ value) = set setting value' →
      Request.ofArguments attached = Request.ofArguments (detached value') ∧
        s.run attached = s.run (detached value') := by
    intro value' taken
    have same : Request.ofArguments attached = Request.ofArguments (detached value') := by
      rw [Request.ofArguments, Request.ofArguments, read_attached closed, read_detached closed,
        taken]
    exact ⟨same, by rw [run, run, same]⟩
  refine ⟨fun other => alike (single_attached_iff.2 other), ?_, ?_, fun begins valued r asked => ?_⟩
  · rw [read_attached closed, read_detached closed, List.append_cancel_left_eq, List.cons_eq_cons]
    exact (and_iff_left rfl).trans single_attached_iff
  · obtain ⟨n, bare, cut, last, taken⟩ := exists_bare setting value
    exact ⟨n, bare, cut, last, alike taken⟩
  · obtain ⟨why, refused⟩ := r.refused_of_lead valued begins
    refine ⟨why, ?_⟩
    rw [Request.ofArguments, read_detached closed, Request.applyAll_append, asked]
    simp only [Except.bind, Request.applyAll, refused]

theorem run_attached_window :
    let s : Surroundings := ⟨fun _ => .error .missing, .empty, false, "-", "-"⟩
    s.run ["-v", "--window=1=--window=", "p", "n"] =
        s.run ["-v", "--window", "1=--window=", "p", "n"] ∧
      ∃ why, Request.ofArguments ["-v", "--window", "--window=1", "p", "n"] =
        .error (.refused why) := by
  intro s
  have closed : ∀ other, valueMissing other ∉ read ["-v"] := by
    intro other
    cases other <;> decide +kernel
  obtain ⟨alike, -⟩ := s.run_attached .window "1=--window=" ["-v"] ["p", "n"] closed
  obtain ⟨-, -, -, refused⟩ := s.run_attached .window "--window=1" ["-v"] ["p", "n"] closed
  exact ⟨(alike (by decide +kernel)).2,
    refused (by decide +kernel) (by decide) { verbose := true } (by decide +kernel)⟩

/-- A window of 1 behind the option twice is found by one form and refused by the other. -/
theorem run_repeated_window :
    let s : Surroundings :=
      ⟨fun name => .ok (if name = "p" then "a".toUTF8 else "b".toUTF8), .empty, false, "-", "-"⟩
    let others := ["p", "n", "--no-case-variants", "--no-quantifiers"]
    Request.ofArguments ("--window=--window=1" :: others) =
        .ok ⟨"RE", ⟨.weighted, ⟨1, false, false⟩⟩, false, false, ["n", "p"]⟩ ∧
      Request.ofArguments ("--window" :: "--window=1" :: others) =
        .error (.refused (.badWindow "--window=1")) ∧
      s.run ("--window=--window=1" :: others) = ⟨0, "a\n", ""⟩ ∧
      s.run ("--window" :: "--window=1" :: others) =
        ⟨2, "", "error: invalid --window '--window=1' (expected a positive integer)\n"⟩ := by
  intro s others
  have attached : Request.ofArguments ("--window=--window=1" :: others) =
      .ok ⟨"RE", ⟨.weighted, ⟨1, false, false⟩⟩, false, false, ["n", "p"]⟩ := by decide +kernel
  have detached : Request.ofArguments ("--window" :: "--window=1" :: others) =
      .error (.refused (.badWindow "--window=1")) := by decide +kernel
  have lists : s.readLists ⟨"RE", ⟨.weighted, ⟨1, false, false⟩⟩, false, false, ["n", "p"]⟩ =
      .ok ("a", "b") := by decide +kernel
  refine ⟨attached, detached, ?_, ?_⟩
  · simp only [run, attached, act, lists]
    decide +kernel
  · simp only [run, detached]
    decide +kernel

end Surroundings

end RegexGolf.CommandLine
