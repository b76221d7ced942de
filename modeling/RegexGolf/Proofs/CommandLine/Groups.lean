import RegexGolf.CommandLine.Request

/-!
What groups of arguments amount to. Arguments may be cut in two wherever no option is left waiting
for its value, and the groups of the two parts stand one behind the other. What groups do to a
request can be told field by field: of several settings the last counts, a flag counts once it
stands anywhere, and files are collected in order. The wish for a report is kept apart from
everything else, so that it can be put anywhere or left out.
-/

namespace RegexGolf.CommandLine

namespace Group

theorem read_cons_of_single {argument : String} (alone : setting? argument = none)
    (rest : List String) : read (argument :: rest) = single argument :: read rest := by
  cases rest with
  | nil => simp only [read, alone]
  | cons value rest => simp only [read, alone]

theorem read_cons_cons {argument : String} {setting : Setting}
    (named : setting? argument = some setting) (value : String) (rest : List String) :
    read (argument :: value :: rest) = set setting value :: read rest := by
  simp only [read, named]

theorem read_append {before : List String}
    (closed : ∀ setting, valueMissing setting ∉ read before) (after : List String) :
    read (before ++ after) = read before ++ read after := by
  -- The cases are those of the reader: no argument, one alone, or an option with its value.
  induction before using read.induct with
  | case1 => rfl
  | case2 argument setting named =>
    exact absurd (by simp [read, named]) (closed setting)
  | case3 argument alone =>
    rw [List.singleton_append, read_cons_of_single alone, read_cons_of_single alone]
    rfl
  | case4 argument value rest setting named ih =>
    rw [read_cons_cons named] at closed ⊢
    rw [List.cons_append, List.cons_append, read_cons_cons named,
      ih fun s waits => closed s (.tail _ waits), List.cons_append]
  | case5 argument value rest alone ih =>
    rw [read_cons_of_single alone] at closed ⊢
    rw [List.cons_append, read_cons_of_single alone, ih fun s waits => closed s (.tail _ waits),
      List.cons_append]

theorem read_verbose {token : String} (spelled : token = "-v" ∨ token = "--verbose")
    (rest : List String) : read (token :: rest) = verbose :: read rest := by
  rcases spelled with rfl | rfl
  · exact read_cons_of_single (by decide) rest
  · exact read_cons_of_single (by decide) rest

def fileName? : Group → Option String
  | file name => some name
  | _ => none

/-- A group neither ends the reading nor is refused. -/
def IsSound : Group → Prop
  | help | version | valueMissing _ | unknown _ => False
  | set .strategy value => (strategy? value).isSome
  | set .window value => (window? value).isSome
  | _ => True

def says? {α : Type} (s : Setting) (reading : String → Option α) : Group → Option α
  | set t value => if t = s then reading value else none
  | _ => none

def color? : Group → Option Bool
  | color on => some on
  | _ => none

/-- The last that groups say of something, or what was the case before them. -/
def latest {α : Type} (said : Group → Option α) (before : α) (groups : List Group) : α :=
  (groups.filterMap said).getLast?.getD before

theorem latest_append {α : Type} (said : Group → Option α) (before : α) (groups more : List Group) :
    latest said before (groups ++ more) = latest said (latest said before groups) more := by
  simp [latest, List.filterMap_append, List.getLast?_append]

@[simp] theorem latest_singleton {α : Type} (said : Group → Option α) (before : α)
    (group : Group) : latest said before [group] = (said group).getD before := by
  cases told : said group <;> simp [latest, told]

end Group

namespace Request

open CommandLine.Group

/-- The request that groups leave behind. -/
def after (r : Request) (groups : List Group) : Request where
  puzzle := latest (says? .puzzle some) r.puzzle groups
  options :=
    { strategy := latest (says? .strategy strategy?) r.options.strategy groups
      cutting :=
        { window := latest (says? .window window?) r.options.cutting.window groups
          caseVariants := r.options.cutting.caseVariants && !groups.contains .noCaseVariants
          quantifiers := r.options.cutting.quantifiers && !groups.contains .noQuantifiers } }
  verbose := r.verbose || groups.contains .verbose
  color := latest color? r.color groups
  files := (groups.filterMap fileName?).reverse ++ r.files

theorem after_nil (r : Request) : r.after [] = r := by
  simp [after, latest]

theorem after_append (r : Request) (groups more : List Group) :
    r.after (groups ++ more) = (r.after groups).after more := by
  simp [after, latest_append, Bool.and_assoc, Bool.or_assoc]

theorem apply_of_isSound {group : Group} (sound : group.IsSound) (r : Request) :
    r.apply group = .ok (r.after [group]) := by
  obtain ⟨puzzle, ⟨strategy, ⟨window, forms, repeats⟩⟩, verbose, color, files⟩ := r
  cases group with
  | help => exact sound.elim
  | version => exact sound.elim
  | valueMissing s => exact sound.elim
  | unknown argument => exact sound.elim
  | set s value =>
    cases s with
    | puzzle => simp [apply, after, says?, color?, fileName?, List.filterMap_cons]
    | strategy =>
      obtain ⟨named, known⟩ := Option.isSome_iff_exists.1 sound
      simp [apply, known, after, says?, color?, setStrategy, fileName?, List.filterMap_cons]
    | window =>
      obtain ⟨size, known⟩ := Option.isSome_iff_exists.1 sound
      simp [apply, known, after, says?, color?, setWindow, fileName?, List.filterMap_cons]
  | _ =>
    simp [apply, after, says?, color?, fileName?, dropCaseVariants, dropQuantifiers,
      List.filterMap_cons]

theorem apply_of_not_isSound {group : Group} (faulty : ¬group.IsSound) (r : Request) :
    (r.apply group = .error .help ∧ group = .help) ∨
    (r.apply group = .error .version ∧ group = .version) ∨
    ∃ why, r.apply group = .error (.refused why) := by
  cases group with
  | help => exact .inl ⟨rfl, rfl⟩
  | version => exact .inr (.inl ⟨rfl, rfl⟩)
  | valueMissing s => exact .inr (.inr ⟨_, rfl⟩)
  | unknown argument => exact .inr (.inr ⟨_, rfl⟩)
  | set s value =>
    cases s with
    | puzzle => exact absurd trivial faulty
    | strategy =>
      have unknown : strategy? value = none := by simpa [IsSound] using faulty
      exact .inr (.inr ⟨.badStrategy value, by rw [apply, unknown]⟩)
    | window =>
      have unknown : window? value = none := by simpa [IsSound] using faulty
      exact .inr (.inr ⟨.badWindow value, by rw [apply, unknown]⟩)
  | _ => exact absurd trivial faulty

theorem applyAll_of_isSound {groups : List Group} (sound : ∀ group ∈ groups, group.IsSound)
    (r : Request) : applyAll r groups = .ok (r.after groups) := by
  induction groups generalizing r with
  | nil => rw [applyAll, after_nil]
  | cons group rest ih =>
    rw [List.forall_mem_cons] at sound
    have parts : r.after (group :: rest) = (r.after [group]).after rest :=
      after_append r [group] rest
    rw [applyAll, apply_of_isSound sound.1, parts]
    exact ih sound.2 _

theorem applyAll_of_not_isSound {groups : List Group}
    (faulty : ¬∀ group ∈ groups, group.IsSound) (r : Request) :
    (applyAll r groups = .error .help ∧ .help ∈ groups) ∨
    (applyAll r groups = .error .version ∧ .version ∈ groups) ∨
    ∃ why, applyAll r groups = .error (.refused why) := by
  induction groups generalizing r with
  | nil => exact absurd (by simp) faulty
  | cons group rest ih =>
    rw [applyAll]
    by_cases sound : group.IsSound
    · rw [apply_of_isSound sound]
      rw [List.forall_mem_cons] at faulty
      refine (ih (fun all => faulty ⟨sound, all⟩) (r.after [group])).imp ?_ (.imp_left ?_)
      · exact .imp_right (.tail _)
      · exact .imp_right (.tail _)
    · rcases apply_of_not_isSound sound r with ⟨stops, rfl⟩ | ⟨stops, rfl⟩ | ⟨why, stops⟩
      · exact .inl ⟨by rw [stops], .head _⟩
      · exact .inr (.inl ⟨by rw [stops], .head _⟩)
      · exact .inr (.inr ⟨why, by rw [stops]⟩)

theorem applyAll_cases (r : Request) (groups : List Group) :
    (applyAll r groups = .error .help ∧ .help ∈ groups) ∨
    (applyAll r groups = .error .version ∧ .version ∈ groups) ∨
    (∃ why, applyAll r groups = .error (.refused why)) ∨
    ∃ last, applyAll r groups = .ok last := by
  by_cases sound : ∀ group ∈ groups, group.IsSound
  · exact .inr (.inr (.inr ⟨_, applyAll_of_isSound sound r⟩))
  · exact (applyAll_of_not_isSound sound r).imp_right (.imp_right .inl)

theorem applyAll_eq_ok_iff {r last : Request} {groups : List Group} :
    applyAll r groups = .ok last ↔ (∀ group ∈ groups, group.IsSound) ∧ last = r.after groups := by
  constructor
  · intro goes
    by_cases sound : ∀ group ∈ groups, group.IsSound
    · rw [applyAll_of_isSound sound] at goes
      exact ⟨sound, (Except.ok.inj goes).symm⟩
    · rcases applyAll_of_not_isSound sound r with ⟨ends, -⟩ | ⟨ends, -⟩ | ⟨why, ends⟩ <;>
        simp [ends] at goes
  · rintro ⟨sound, rfl⟩
    exact applyAll_of_isSound sound r

theorem effect_of_ofArguments {arguments : List String} {terminal : Bool} {r : Request}
    (asked : ofArguments arguments terminal = .ok r) :
    r.files.reverse = (read arguments).filterMap fileName? ∧
      r.verbose = (read arguments).contains .verbose := by
  rw [ofArguments, applyAll_eq_ok_iff] at asked
  obtain ⟨-, rfl⟩ := asked
  simp [after]

def quiet (r : Request) : Request := { r with verbose := false }

variable {r r' : Request}

theorem quiet_eq_iff :
    r.quiet = r'.quiet ↔ r.puzzle = r'.puzzle ∧ r.options = r'.options ∧ r.color = r'.color ∧
      r.files = r'.files := by
  simp [quiet]

theorem apply_quiet (r : Request) (group : Group) :
    (r.quiet.apply group).map quiet = (r.apply group).map quiet := by
  cases group with
  | set setting value =>
    cases setting with
    | puzzle => rfl
    | strategy =>
      simp only [apply]
      cases strategy? value <;> rfl
    | window =>
      simp only [apply]
      cases window? value <;> rfl
  | _ => rfl

theorem applyAll_quiet (same : r.quiet = r'.quiet) (groups : List Group) :
    (applyAll r groups).map quiet = (applyAll r' groups).map quiet := by
  induction groups generalizing r r' with
  | nil => exact congrArg Except.ok same
  | cons group rest ih =>
    have step : (r.apply group).map quiet = (r'.apply group).map quiet := by
      rw [← apply_quiet r, same, apply_quiet]
    rw [applyAll, applyAll]
    rcases first : r.apply group with stop | next <;> rcases second : r'.apply group with stop' | next'
    · rw [first, second] at step
      cases step
      rfl
    · simp [first, second, Except.map] at step
    · simp [first, second, Except.map] at step
    · rw [first, second] at step
      exact ih (Except.ok.inj step)

theorem applyAll_append (r : Request) (groups more : List Group) :
    applyAll r (groups ++ more) = (applyAll r groups).bind fun next => applyAll next more := by
  induction groups generalizing r with
  | nil => rfl
  | cons group rest ih =>
    rw [List.cons_append, applyAll, applyAll]
    cases r.apply group with
    | error stop => rfl
    | ok next => exact ih next

/-- The wish for a report changes nothing else that is asked for. -/
theorem ofArguments_verbose {before : List String}
    (closed : ∀ setting, valueMissing setting ∉ read before) {token : String}
    (spelled : token = "-v" ∨ token = "--verbose") (after : List String) (terminal : Bool) :
    (ofArguments (before ++ token :: after) terminal).map quiet =
      (ofArguments (before ++ after) terminal).map quiet := by
  rw [ofArguments, ofArguments, read_append closed, read_append closed, read_verbose spelled,
    applyAll_append, applyAll_append]
  cases applyAll { color := terminal } (read before) with
  | error stop => rfl
  | ok next =>
    have same : quiet { next with verbose := true } = next.quiet := rfl
    exact applyAll_quiet same (read after)

end Request

end RegexGolf.CommandLine
