import RegexGolf.CommandLine.Program
import RegexGolf.Proofs.CommandLine.Groups

/-!
Arguments as bytes. A process on texts does what the texts ask for. An argument that is no text is
met only if the arguments before it neither stop the reading nor are refused, apart from an option
that waits for it.
-/

namespace RegexGolf.CommandLine

theorem fromUTF8?_eq_some_iff {bytes : ByteArray} {text : String} :
    String.fromUTF8? bytes = some text ↔ bytes = text.toUTF8 := by
  unfold String.fromUTF8?
  constructor
  · split
    · intro eq
      cases eq
      rfl
    · intro eq
      cases eq
  · rintro rfl
    exact dif_pos text.isValidUTF8

@[simp] theorem fromUTF8?_toUTF8 (text : String) : String.fromUTF8? text.toUTF8 = some text :=
  fromUTF8?_eq_some_iff.2 rfl

theorem decode_append (texts : List String) (rest : List ByteArray) :
    decode (texts.map String.toUTF8 ++ rest) = (texts ++ (decode rest).1, (decode rest).2) := by
  induction texts with
  | nil => rfl
  | cons text more ih =>
    rw [List.map_cons, List.cons_append, decode, fromUTF8?_toUTF8, ih]
    rfl

theorem decode_texts (texts : List String) : decode (texts.map String.toUTF8) = (texts, none) := by
  simpa [decode] using decode_append texts []

theorem decode_garbled (texts : List String) {bytes : ByteArray}
    (garbled : String.fromUTF8? bytes = none) (rest : List ByteArray) :
    decode (texts.map String.toUTF8 ++ bytes :: rest) = (texts, some bytes) := by
  rw [decode_append, decode, garbled, List.append_nil]

theorem exists_texts (arguments : List ByteArray) :
    (∃ texts : List String, arguments = texts.map String.toUTF8) ∨
    ∃ (texts : List String) (bytes : ByteArray) (rest : List ByteArray),
      arguments = texts.map String.toUTF8 ++ bytes :: rest ∧
      String.fromUTF8? bytes = none := by
  induction arguments with
  | nil => exact .inl ⟨[], rfl⟩
  | cons argument more ih =>
    cases read : String.fromUTF8? argument with
    | none => exact .inr ⟨[], argument, more, rfl, read⟩
    | some text =>
      obtain rfl := fromUTF8?_eq_some_iff.1 read
      rcases ih with ⟨texts, rfl⟩ | ⟨texts, bytes, rest, rfl, garbled⟩
      · exact .inl ⟨text :: texts, rfl⟩
      · exact .inr ⟨text :: texts, bytes, rest, rfl, garbled⟩

namespace Group

theorem single_ne_valueMissing (argument : String) (setting : Setting) :
    single argument ≠ valueMissing setting := by
  intro waits
  unfold single at waits
  split at waits <;> try cases waits
  split at waits
  · rename_i group found
    obtain ⟨s, -, attached⟩ := List.exists_of_findSome?_eq_some found
    simp only [attached?] at attached
    split at attached <;> cases attached
    cases waits
  · split at waits <;> cases waits

/-- After such a group the reading asks for the next argument. -/
def GoesOn (group : Group) : Prop := group.IsSound ∨ ∃ setting, group = valueMissing setting

end Group

namespace Request

open CommandLine.Group

/-- Where the next argument is asked for: behind arguments that are accepted, and behind an option
that waits for its value. -/
def Asks (asked : Except Stop Request) : Prop :=
  (∃ r, asked = .ok r) ∨ ∃ setting, asked = .error (.refused (.valueMissing setting))

theorem apply_eq_valueMissing_iff {r : Request} {group : Group} {setting : Setting} :
    r.apply group = .error (.refused (.valueMissing setting)) ↔ group = .valueMissing setting := by
  cases group with
  | set s value =>
    cases s with
    | puzzle => simp [apply]
    | strategy =>
      simp only [apply]
      cases strategy? value <;> simp
    | window =>
      simp only [apply]
      cases window? value <;> simp
  | _ => simp [apply]

theorem asks_cons_iff {group : Group} (full : ∀ setting, group ≠ .valueMissing setting)
    (r : Request) (rest : List Group) :
    Asks (applyAll r (group :: rest)) ↔ group.IsSound ∧ Asks (applyAll (r.after [group]) rest) := by
  rw [applyAll]
  by_cases sound : group.IsSound
  · rw [apply_of_isSound sound]
    simp [sound]
  · have stops : ∃ stop, r.apply group = .error stop := by
      rcases apply_of_not_isSound sound r with ⟨ends, -⟩ | ⟨ends, -⟩ | ⟨why, ends⟩
      · exact ⟨_, ends⟩
      · exact ⟨_, ends⟩
      · exact ⟨_, ends⟩
    obtain ⟨stop, ends⟩ := stops
    simp only [ends, sound, false_and, iff_false]
    rintro (⟨last, eq⟩ | ⟨setting, eq⟩)
    · cases eq
    · cases eq
      exact full setting (apply_eq_valueMissing_iff.1 ends)

theorem asks_read_iff (r : Request) (arguments : List String) :
    Asks (applyAll r (read arguments)) ↔ ∀ group ∈ read arguments, group.GoesOn := by
  have handed : ∀ {group : Group} {rest : List Group}, (∀ setting, group ≠ .valueMissing setting) →
      (∀ r : Request, Asks (applyAll r rest) ↔ ∀ g ∈ rest, g.GoesOn) → ∀ r : Request,
      (Asks (applyAll r (group :: rest)) ↔ ∀ g ∈ group :: rest, g.GoesOn) := by
    intro group rest full ih r
    have own : group.GoesOn ↔ group.IsSound := by
      refine ⟨fun goes => goes.resolve_right ?_, .inl⟩
      rintro ⟨setting, waits⟩
      exact full setting waits
    rw [asks_cons_iff full, ih, List.forall_mem_cons, own]
  induction arguments using read.induct generalizing r with
  | case1 => simp [Group.read, applyAll, Asks]
  | case2 argument setting named => simp [Group.read, named, applyAll, apply, Asks, GoesOn]
  | case3 argument alone =>
    rw [read_cons_of_single alone]
    refine handed (single_ne_valueMissing argument) (fun r => ?_) r
    simp [Group.read, applyAll, Asks]
  | case4 argument value rest setting named ih =>
    rw [read_cons_cons named]
    exact handed (by simp) ih r
  | case5 argument value rest alone ih =>
    rw [read_cons_of_single alone]
    exact handed (single_ne_valueMissing argument) ih r

end Request

namespace Launch

variable (l : Launch) (texts : List String)

theorem run_texts :
    l.run (texts.map String.toUTF8) = l.act (Request.ofArguments texts l.terminal) := by
  simp only [run, decode_texts]

theorem run_texts_eq_run (away : l.terminal = false) :
    l.run (texts.map String.toUTF8) = l.toSurroundings.run texts := by
  rw [run_texts, away, Surroundings.run]

variable {bytes : ByteArray} (garbled : String.fromUTF8? bytes = none) (rest : List ByteArray)

include garbled

theorem run_of_asks (asks : Request.Asks (Request.ofArguments texts l.terminal)) :
    l.run (texts.map String.toUTF8 ++ bytes :: rest) = ⟨101, "", l.complaint bytes⟩ := by
  simp only [run, decode_garbled texts garbled]
  rcases asks with ⟨r, asked⟩ | ⟨setting, asked⟩
  · rw [asked]
  · rw [asked]

theorem run_of_not_asks (stops : ¬Request.Asks (Request.ofArguments texts l.terminal)) :
    l.run (texts.map String.toUTF8 ++ bytes :: rest) =
      l.act (Request.ofArguments texts l.terminal) := by
  simp only [run, decode_garbled texts garbled]
  split
  · rename_i asked
    exact absurd (.inl ⟨_, asked⟩) stops
  · rename_i asked
    exact absurd (.inr ⟨_, asked⟩) stops
  · rfl

end Launch

end RegexGolf.CommandLine
