import Mathlib.Control.Monad.Basic
import RegexGolf.Proofs.Alternatives
import RegexGolf.Proofs.CommandLine.Decoding
import RegexGolf.Proofs.Outcome

/-!
What the program promises. It ends in one of three ways, unless it meets an argument that is no
text, and only with exit code 0 is anything printed. The pattern is printed last and on a line of its
own, because no pattern holds a line feed; so the report above it can be asked for or not, wherever
the wish stands among the arguments.
-/

namespace RegexGolf

/-- Patterns are printed on one line: no line holds a line feed, and no change of case makes one. -/
theorem not_mem_newline_of_solve {positive negative : String} {options : Options} {s : Solution}
    (found : solve positive negative options = .ok s) : '\n' ∉ s.pattern.toList := by
  intro held
  obtain ⟨ran, -⟩ := run_of_solve found
  obtain ⟨line, listed, held⟩ :=
    Synthesis.exists_word_of_mem_pattern ran held (by decide) (by decide)
  exact Text.Lines.ne_of_mem_split listed '\n' held rfl

theorem separates_of_solve {positive negative : String} {options : Options} {s : Solution}
    (found : solve positive negative options = .ok s) :
    ∃ r, Regex.parse s.pattern = .ok r ∧ r.Separates positive negative := by
  obtain ⟨ran, converged⟩ := run_of_solve found
  obtain ⟨r, read, judged⟩ := Synthesis.parse_of_run ran
  exact ⟨r, read, (r.validates_iff_separates positive negative).1 (judged ▸ converged)⟩

theorem Registry.get_standard_of_ne {id : String} (other : id ≠ listFilterId) :
    standard.get id = .error (.unknownPuzzle id) := by
  have names : (id == listFilterId) = false := beq_false_of_ne other
  simp [get, standard, register, empty, place, List.lookup_cons, names]

namespace CommandLine

open Text.Lines

theorem Report.ends_render (color : Bool) (duration : String) (s : Solution) :
    ∃ lines, (Report.render color duration s).toList = lines ++ ['\n'] := by
  obtain ⟨body, eq⟩ : ∃ body, Report.render color duration s = body ++ "\n\n" := ⟨_, rfl⟩
  have closing : "\n\n".toList = ['\n', '\n'] := by decide
  rw [eq, String.toList_append, closing]
  exact ⟨_, List.append_cons _ '\n' ['\n']⟩

namespace Surroundings

theorem readList_eq_ok_iff {s : Surroundings} {name text : String} :
    s.readList name = .ok text ↔ s.source name = .ok text.toUTF8 := by
  unfold readList
  cases found : s.source name with
  | error why => simp
  | ok bytes =>
    rw [Except.ok.injEq, ← fromUTF8?_eq_some_iff]
    cases decoded : String.fromUTF8? bytes <;> simp [decoded]

theorem readList_cases (s : Surroundings) (name : String) :
    (∃ why, s.readList name = .error (.refused why)) ∨ ∃ text, s.readList name = .ok text := by
  unfold readList
  split
  · exact .inl ⟨_, rfl⟩
  · split
    · exact .inl ⟨_, rfl⟩
    · exact .inr ⟨_, rfl⟩

theorem readLists_of_files {s : Surroundings} {r : Request} {p n : String}
    (files : r.files.reverse = [p, n]) :
    s.readLists r =
      if p = "-" ∧ n = "-" then .error (.refused .stdinTwice)
      else (s.readList p).bind fun positive =>
        (s.readList n).bind fun negative => .ok (positive, negative) := by
  simp only [readLists, files]
  split <;> rfl

theorem readLists_cases (s : Surroundings) (r : Request) :
    (∃ why, s.readLists r = .error (.refused why)) ∨
    ∃ p n positive negative, r.files.reverse = [p, n] ∧ s.readList p = .ok positive ∧
      s.readList n = .ok negative ∧ s.readLists r = .ok (positive, negative) := by
  by_cases two : ∃ p n, r.files.reverse = [p, n]
  · obtain ⟨p, n, files⟩ := two
    rw [readLists_of_files files]
    by_cases twice : p = "-" ∧ n = "-"
    · exact .inl ⟨.stdinTwice, if_pos twice⟩
    · rw [if_neg twice]
      rcases s.readList_cases p with ⟨why, first⟩ | ⟨positive, first⟩
      · exact .inl ⟨why, by rw [first]; rfl⟩
      · rcases s.readList_cases n with ⟨why, second⟩ | ⟨negative, second⟩
        · exact .inl ⟨why, by rw [first, second]; rfl⟩
        · exact .inr ⟨p, n, positive, negative, files, first, second, by rw [first, second]; rfl⟩
  · refine .inl ⟨.filesExpected, ?_⟩
    unfold readLists
    split
    · rename_i p n files
      exact absurd ⟨p, n, files⟩ two
    · rfl

theorem filterLists_cases (s : Surroundings) (r : Request) (positive negative : String) :
    (∃ log e, s.filterLists r positive negative = ending log "" (.error e)) ∨
    ∃ solution log, solve positive negative r.options = .ok solution ∧
      s.filterLists r positive negative =
        ending log (if r.verbose then Report.render r.color s.duration solution else "")
          (.ok solution.pattern) := by
  unfold filterLists
  split
  · exact .inl ⟨_, _, rfl⟩
  · rename_i lists split
    simp only
    cases result : Solution.ofRun lists r.options (Synthesis.run lists r.options) with
    | error e => exact .inl ⟨_, e, rfl⟩
    | ok solution =>
      refine .inr ⟨solution, _, ?_, rfl⟩
      simp only [solve, split, bind, Except.bind, result]

theorem act_cases (s : Surroundings) (r : Request) :
    (∃ why, s.act (.ok r) = (Stop.refused why).output) ∨
    (∃ log e, s.act (.ok r) = ending log "" (.error e)) ∨
    ∃ positive negative solution log, s.readLists r = .ok (positive, negative) ∧
      solve positive negative r.options = .ok solution ∧
      s.act (.ok r) =
        ending log (if r.verbose then Report.render r.color s.duration solution else "")
          (.ok solution.pattern) := by
  rcases s.readLists_cases r with ⟨why, lists⟩ | ⟨p, n, positive, negative, -, -, -, lists⟩
  · exact .inl ⟨why, by simp only [act, lists]⟩
  · have told : s.act (.ok r) = if r.puzzle = Registry.listFilterId then
        s.filterLists r positive negative else runPuzzle r positive negative := by
      simp only [act, lists]
    rw [told]
    by_cases named : r.puzzle = Registry.listFilterId
    · rw [if_pos named]
      refine .inr ((s.filterLists_cases r positive negative).imp_right ?_)
      rintro ⟨solution, log, found, ends⟩
      exact ⟨positive, negative, solution, log, lists, found, ends⟩
    · rw [if_neg named, runPuzzle, Registry.get_standard_of_ne named]
      exact .inr (.inl ⟨"", _, rfl⟩)

theorem exit_act (s : Surroundings) (asked : Except Stop Request) :
    ((s.act asked).exit = 0 ∨ (s.act asked).exit = 1 ∨ (s.act asked).exit = 2) ∧
      ((s.act asked).exit ≠ 0 → (s.act asked).stdout = "") := by
  cases asked with
  | error stop =>
    cases stop with
    | help => exact ⟨.inl rfl, fun failed => absurd rfl failed⟩
    | version => exact ⟨.inl rfl, fun failed => absurd rfl failed⟩
    | refused why => exact ⟨.inr (.inr rfl), fun _ => rfl⟩
  | ok r =>
    rcases s.act_cases r with ⟨why, ends⟩ | ⟨log, e, ends⟩ | ⟨_, _, solution, log, -, -, ends⟩
    · rw [ends]
      exact ⟨.inr (.inr rfl), fun _ => rfl⟩
    · rw [ends]
      exact ⟨.inr (.inl rfl), fun _ => rfl⟩
    · rw [ends]
      exact ⟨.inl rfl, fun failed => absurd rfl failed⟩

/-- Outputs that differ at most in reports: they end with the same code and the same line, and if
the times are told alike they log the same. -/
structure Alike (timed : Prop) (a b : Output) : Prop where
  exit : a.exit = b.exit
  last : last a.stdout = last b.stdout
  stderr : timed → a.stderr = b.stderr

theorem Alike.refl {timed : Prop} (a : Output) : Alike timed a a := ⟨rfl, rfl, fun _ => rfl⟩

theorem last_ending {positive negative : String} {options : Options} {solution : Solution}
    (found : solve positive negative options = .ok solution) (log : String)
    (wanted color : Bool) (duration : String) :
    last (ending log (if wanted then Report.render color duration solution else "")
      (.ok solution.pattern)).stdout = solution.pattern := by
  refine last_of_printed ?_ (not_mem_newline_of_solve found)
  cases wanted with
  | false => exact .inl rfl
  | true => exact .inr (Report.ends_render color duration solution)

theorem alike_filterLists (s : Surroundings) (time duration : String) {r r' : Request}
    (same : r.quiet = r'.quiet) (positive negative : String) :
    Alike (time = s.time)
      (filterLists { s with time := time, duration := duration } r positive negative)
      (s.filterLists r' positive negative) := by
  obtain ⟨-, options, color, -⟩ := Request.quiet_eq_iff.1 same
  unfold filterLists
  rw [options, color]
  cases split : WordLists.ofBlocks positive negative with
  | error e => exact .refl _
  | ok lists =>
    simp only
    cases result : Solution.ofRun lists r'.options (Synthesis.run lists r'.options) with
    | error e =>
      refine ⟨by simp only [ending], by simp only [ending], ?_⟩
      rintro rfl
      rfl
    | ok solution =>
      have found : solve positive negative r'.options = .ok solution := by
        simp only [solve, split, bind, Except.bind, result]
      refine ⟨by simp only [ending], ?_, ?_⟩
      · rw [last_ending found, last_ending found]
      · rintro rfl
        rfl

theorem alike_act (s : Surroundings) (time duration : String) {asked others : Except Stop Request}
    (same : asked.map Request.quiet = others.map Request.quiet) :
    Alike (time = s.time) (act { s with time := time, duration := duration } asked)
      (s.act others) := by
  rcases asked with stop | r <;> rcases others with stop' | r'
  · cases same
    exact .refl _
  · cases same
  · cases same
  · have quiet : r.quiet = r'.quiet := Except.ok.inj same
    obtain ⟨puzzle, -, -, files⟩ := Request.quiet_eq_iff.1 quiet
    have lists : readLists { s with time := time, duration := duration } r = s.readLists r' := by
      rw [readLists, readLists, files]
      rfl
    simp only [act, lists, puzzle]
    cases s.readLists r' with
    | error stop => exact .refl _
    | ok texts =>
      obtain ⟨positive, negative⟩ := texts
      simp only
      split
      · exact alike_filterLists s time duration quiet positive negative
      · rw [runPuzzle, puzzle, ← runPuzzle]
        exact .refl _

theorem answer_of_act {s : Surroundings} {texts : List String} {terminal : Bool} {r : Request}
    (asked : Request.ofArguments texts terminal = .ok r) (ends : (s.act (.ok r)).exit = 0) :
    (∃ p n positive negative regex, (Group.read texts).filterMap Group.fileName? = [p, n] ∧
        s.source p = .ok positive.toUTF8 ∧ s.source n = .ok negative.toUTF8 ∧
        Regex.parse (last (s.act (.ok r)).stdout) = .ok regex ∧
        regex.Separates positive negative) ∧
      (.verbose ∉ Group.read texts →
        (s.act (.ok r)).stdout = last (s.act (.ok r)).stdout ++ "\n") := by
  rcases s.act_cases r with ⟨why, told⟩ | ⟨log, e, told⟩ |
    ⟨positive, negative, solution, log, lists, found, told⟩
  · rw [told] at ends
    cases ends
  · rw [told] at ends
    cases ends
  · have printed : last (s.act (.ok r)).stdout = solution.pattern := by
      rw [told, last_ending found]
    obtain ⟨files, verbose⟩ := Request.effect_of_ofArguments asked
    refine ⟨?_, fun silent => ?_⟩
    · obtain ⟨why, refused⟩ | ⟨p, n, positive', negative', named, first, second, read⟩ :=
        s.readLists_cases r
      · rw [lists] at refused
        cases refused
      · rw [lists] at read
        cases read
        obtain ⟨regex, parsed, separates⟩ := separates_of_solve found
        exact ⟨p, n, positive, negative, regex, files ▸ named, readList_eq_ok_iff.1 first,
          readList_eq_ok_iff.1 second, printed ▸ parsed, separates⟩
    · have quiet : r.verbose = false := by
        rw [verbose, ← Bool.not_eq_true, List.contains_iff_mem]
        exact silent
      rw [printed, told, ending, quiet]
      simp

end Surroundings

namespace Launch

open Surroundings

/-- How a process can end: on an argument that is no text, on one of the texts before such an
argument, or as the program on texts. -/
theorem run_cases (l : Launch) (arguments : List ByteArray) :
    (∃ texts bytes rest, arguments = texts.map String.toUTF8 ++ bytes :: rest ∧
      String.fromUTF8? bytes = none ∧ (∀ group ∈ Group.read texts, group.GoesOn) ∧
      l.run arguments = ⟨101, "", l.complaint bytes⟩) ∨
    ∃ asked, l.run arguments = l.act asked ∧
      asked = Request.ofArguments (decode arguments).1 l.terminal ∧
      ((∃ stop, asked = .error stop) ∨ arguments = (decode arguments).1.map String.toUTF8) := by
  rcases exists_texts arguments with ⟨texts, rfl⟩ | ⟨texts, bytes, rest, rfl, garbled⟩
  · refine .inr ⟨_, l.run_texts texts, ?_, .inr ?_⟩ <;> rw [decode_texts]
  · by_cases goesOn : ∀ group ∈ Group.read texts, group.GoesOn
    · exact .inl ⟨texts, bytes, rest, rfl, garbled, goesOn,
        l.run_of_asks texts garbled rest ((Request.asks_read_iff _ texts).2 goesOn)⟩
    · have stops := mt (Request.asks_read_iff { color := l.terminal } texts).1 goesOn
      refine .inr ⟨_, l.run_of_not_asks texts garbled rest stops, ?_, .inl ?_⟩
      · rw [decode_garbled texts garbled]
      · cases asked : Request.ofArguments texts l.terminal with
        | error stop => exact ⟨stop, rfl⟩
        | ok r => exact absurd (.inl ⟨r, asked⟩) stops

theorem exit_run (l : Launch) (arguments : List ByteArray) :
    ((l.run arguments).exit = 0 ∨ (l.run arguments).exit = 1 ∨ (l.run arguments).exit = 2 ∨
      (l.run arguments).exit = 101) ∧
    ((l.run arguments).exit = 101 ↔
      ∃ texts bytes rest, arguments = texts.map String.toUTF8 ++ bytes :: rest ∧
        String.fromUTF8? bytes = none ∧ ∀ group ∈ Group.read texts, group.GoesOn) ∧
    ((l.run arguments).exit ≠ 0 → (l.run arguments).stdout = "") := by
  have meets : ∀ texts bytes rest, arguments = texts.map String.toUTF8 ++ bytes :: rest →
      String.fromUTF8? bytes = none → (∀ group ∈ Group.read texts, group.GoesOn) →
      l.run arguments = ⟨101, "", l.complaint bytes⟩ := by
    rintro texts bytes rest rfl garbled goesOn
    exact l.run_of_asks texts garbled rest ((Request.asks_read_iff _ texts).2 goesOn)
  rcases l.run_cases arguments with ⟨texts, bytes, rest, eq, garbled, goesOn, ends⟩ |
    ⟨asked, ends, -⟩
  · rw [ends]
    exact ⟨.inr (.inr (.inr rfl)), ⟨fun _ => ⟨texts, bytes, rest, eq, garbled, goesOn⟩,
      fun _ => rfl⟩, fun _ => rfl⟩
  · obtain ⟨code, silent⟩ := l.exit_act asked
    rw [← ends] at code silent
    refine ⟨by omega, ⟨fun fails => by omega, ?_⟩, silent⟩
    rintro ⟨texts, bytes, rest, eq, garbled, goesOn⟩
    rw [meets texts bytes rest eq garbled goesOn]

theorem answer_of_run {l : Launch} {arguments : List ByteArray}
    (ends : (l.run arguments).exit = 0) (noHelp : .help ∉ Group.read (decode arguments).1)
    (noVersion : .version ∉ Group.read (decode arguments).1) :
    ∃ texts, arguments = texts.map String.toUTF8 ∧
      (∃ p n positive negative r, (Group.read texts).filterMap Group.fileName? = [p, n] ∧
        l.source p = .ok positive.toUTF8 ∧ l.source n = .ok negative.toUTF8 ∧
        Regex.parse (last (l.run arguments).stdout) = .ok r ∧ r.Separates positive negative) ∧
      (.verbose ∉ Group.read texts →
        (l.run arguments).stdout = last (l.run arguments).stdout ++ "\n") := by
  rcases l.run_cases arguments with ⟨texts, bytes, rest, -, -, -, fails⟩ |
    ⟨asked, told, asks, whole⟩
  · rw [fails] at ends
    cases ends
  · rw [told] at ends ⊢
    rcases Request.applyAll_cases { color := l.terminal } (Group.read (decode arguments).1) with
      ⟨stops, listed⟩ | ⟨stops, listed⟩ | ⟨why, stops⟩ | ⟨r, accepted⟩
    · exact absurd listed noHelp
    · exact absurd listed noVersion
    · rw [asks, Request.ofArguments, stops] at ends
      cases ends
    · rw [← Request.ofArguments] at accepted
      rw [accepted] at asks
      subst asks
      rcases whole with ⟨stop, eq⟩ | texts
      · cases eq
      · exact ⟨_, texts, answer_of_act accepted ends⟩

theorem alike_run (l : Launch) (time duration : String) {arguments others : List ByteArray}
    (garbled : (decode arguments).2 = (decode others).2)
    (same : (Request.ofArguments (decode arguments).1 l.terminal).map Request.quiet =
      (Request.ofArguments (decode others).1 l.terminal).map Request.quiet) :
    Alike (time = l.time) (run { l with time := time, duration := duration } arguments)
      (l.run others) := by
  have acts := alike_act l.toSurroundings time duration same
  simp only [run, garbled]
  cases (decode others).2 with
  | none => exact acts
  | some bytes =>
    rcases asked : Request.ofArguments (decode arguments).1 l.terminal with stop | r <;>
      rcases asked' : Request.ofArguments (decode others).1 l.terminal with stop' | r' <;>
      rw [asked, asked'] at same acts
    · cases same
      split
      · exact .refl _
      · exact .refl _
      · exact acts
    · cases same
    · cases same
    · exact .refl _

/-- What the program promises. The exit code is 0, 1 or 2, unless the reading of the arguments comes
to one that is no text. With exit code 0, neither help nor the version being asked for, the last
line printed is a pattern for the texts of the two files that are named, and without a report it is
all that is printed. A wish for a report, put wherever no option waits for its value, changes
neither the exit code nor the last line nor, the time apart, the log. -/
theorem run_ends_with_pattern (l : Launch) (arguments : List ByteArray) :
    ((l.run arguments).exit = 0 ∨ (l.run arguments).exit = 1 ∨ (l.run arguments).exit = 2 ∨
      (l.run arguments).exit = 101) ∧
    ((l.run arguments).exit = 101 ↔
      ∃ texts bytes rest, arguments = texts.map String.toUTF8 ++ bytes :: rest ∧
        String.fromUTF8? bytes = none ∧ ∀ group ∈ Group.read texts, group.GoesOn) ∧
    ((l.run arguments).exit ≠ 0 → (l.run arguments).stdout = "") ∧
    ((l.run arguments).exit = 0 → .help ∉ Group.read (decode arguments).1 →
      .version ∉ Group.read (decode arguments).1 →
      ∃ texts, arguments = texts.map String.toUTF8 ∧
      (∃ p n positive negative r, (Group.read texts).filterMap Group.fileName? = [p, n] ∧
        l.source p = .ok positive.toUTF8 ∧ l.source n = .ok negative.toUTF8 ∧
        Regex.parse (last (l.run arguments).stdout) = .ok r ∧ r.Separates positive negative) ∧
      (.verbose ∉ Group.read texts →
        (l.run arguments).stdout = last (l.run arguments).stdout ++ "\n")) ∧
    ∀ before token after time duration, arguments = before ++ after →
      (∀ texts setting, before = texts.map String.toUTF8 →
        .valueMissing setting ∉ Group.read texts) →
      (token = "-v" ∨ token = "--verbose") →
      Alike (time = l.time)
        (run { l with time := time, duration := duration } (before ++ token.toUTF8 :: after))
        (l.run arguments) := by
  obtain ⟨code, fails, silent⟩ := l.exit_run arguments
  refine ⟨code, fails, silent, answer_of_run, ?_⟩
  rintro before token after time duration rfl closed spelled
  rcases exists_texts before with ⟨texts, rfl⟩ | ⟨texts, bytes, rest, rfl, garbled⟩
  · have more : decode (texts.map String.toUTF8 ++ token.toUTF8 :: after) =
        (texts ++ token :: (decode after).1, (decode after).2) := by
      rw [decode_append, decode, fromUTF8?_toUTF8]
    refine l.alike_run time duration ?_ ?_ <;> rw [more, decode_append]
    exact Request.ofArguments_verbose (fun setting => closed texts setting rfl) spelled _ _
  · -- The reading ends before it comes to the new argument.
    have more : decode (texts.map String.toUTF8 ++ bytes :: rest ++ token.toUTF8 :: after) =
        decode (texts.map String.toUTF8 ++ bytes :: rest ++ after) := by
      simp only [List.append_assoc, List.cons_append, decode_garbled texts garbled]
    refine l.alike_run time duration ?_ ?_ <;> rw [more]

theorem run_ends_with_pattern_letters :
    let l : Launch :=
      ⟨⟨fun name => .ok (if name = "p" then "a".toUTF8 else "b".toUTF8), .empty, false, "-", "-"⟩,
        true, fun _ => ""⟩
    let options := ["--window=1", "n", "--no-case-variants", "--no-quantifiers"]
    (l.run (("p" :: "-v" :: options).map String.toUTF8)).exit = 0 ∧
      ∃ r, Regex.parse (last (l.run (("p" :: options).map String.toUTF8)).stdout) = .ok r ∧
        r.Separates "a" "b" := by
  intro l options
  have asked : Request.ofArguments ("p" :: options) true =
      .ok ⟨"RE", ⟨.weighted, ⟨1, false, false⟩⟩, false, true, ["n", "p"]⟩ := by decide +kernel
  have lists : l.readLists ⟨"RE", ⟨.weighted, ⟨1, false, false⟩⟩, false, true, ["n", "p"]⟩ =
      .ok ("a", "b") := by decide +kernel
  have ended : (l.run (("p" :: options).map String.toUTF8)).exit = 0 := by
    rw [l.run_texts, asked]
    simp only [act, lists]
    decide +kernel
  have texts : (decode (("p" :: options).map String.toUTF8)).1 = "p" :: options := by
    rw [decode_texts]
  have names : (Group.read ("p" :: options)).filterMap Group.fileName? = ["p", "n"] := by
    decide +kernel
  obtain ⟨-, -, -, answer, added⟩ :=
    run_ends_with_pattern l (("p" :: options).map String.toUTF8)
  obtain ⟨read, eq, ⟨p, n, positive, negative, r, named, first, second, parsed, separates⟩, -⟩ :=
    answer ended (by rw [texts]; decide +kernel) (by rw [texts]; decide +kernel)
  obtain rfl : "p" :: options = read := by rw [← texts, eq, decode_texts]
  rw [names] at named
  cases named
  obtain rfl : "a" = positive := String.toByteArray_inj.1 (Except.ok.inj first)
  obtain rfl : "b" = negative := String.toByteArray_inj.1 (Except.ok.inj second)
  have closed : ∀ (texts : List String) (setting : Setting),
      ["p"].map String.toUTF8 = texts.map String.toUTF8 →
        .valueMissing setting ∉ Group.read texts := by
    intro texts setting same
    obtain rfl : ["p"] = texts := by
      simpa only [decode_texts] using congrArg (fun arguments => (decode arguments).1) same
    cases setting <;> decide +kernel
  have told := added (["p"].map String.toUTF8) "-v" (options.map String.toUTF8) "-" "-" rfl closed
    (.inl rfl)
  exact ⟨told.exit.trans ended, r, parsed, separates⟩

/-- An argument that is no text, met at once. -/
theorem exit_run_garbled :
    let l : Launch := ⟨⟨fun _ => .ok .empty, .empty, false, "-", "-"⟩, false, fun _ => ""⟩
    let garbled : ByteArray := ⟨#[0xFF]⟩
    let code := (l.run [garbled, "n".toUTF8]).exit
    String.fromUTF8? garbled = none ∧ code = 101 ∧ ¬(code = 0 ∨ code = 1 ∨ code = 2) := by
  intro l garbled code
  have unread : String.fromUTF8? garbled = none := by decide +kernel
  have fails : code = 101 :=
    congrArg Output.exit (l.run_of_asks [] unread ["n".toUTF8] (.inl ⟨_, rfl⟩))
  exact ⟨unread, fails, by omega⟩

end Launch

end CommandLine

end RegexGolf
