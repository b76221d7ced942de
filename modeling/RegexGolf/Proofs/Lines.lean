import RegexGolf.Text.Lines

/-!
Texts cut into lines. There is always a line, and no line holds a line feed. The last line of a text
that ends with a line is that line, whatever lines stand above it. What is read from a block is what
was written to it, one line below the other, however each line was closed.
-/

namespace RegexGolf.Text.Lines

theorem not_mem_of_mem_splitOn {sep : Char} {text part : List Char}
    (listed : part ∈ text.splitOn sep) : sep ∉ part := by
  induction text generalizing part with
  | nil =>
    rw [List.splitOn_nil, List.mem_singleton] at listed
    rw [listed]
    exact List.not_mem_nil
  | cons c rest ih =>
    rw [List.splitOn_cons_eq_if_modifyHead] at listed
    by_cases same : c = sep
    · rw [if_pos (beq_iff_eq.2 same), List.mem_cons] at listed
      rcases listed with rfl | listed
      · exact List.not_mem_nil
      · exact ih listed
    · obtain ⟨first, others, eq⟩ := List.exists_cons_of_ne_nil (List.splitOn_ne_nil sep rest)
      rw [eq] at ih
      rw [if_neg (by simpa using same), eq, List.modifyHead_cons, List.mem_cons] at listed
      rcases listed with rfl | listed
      · rw [List.mem_cons, not_or]
        exact ⟨Ne.symm same, ih (.head _)⟩
      · exact ih (.tail _ listed)

theorem ne_of_mem_split {block line : String} (listed : line ∈ split block) :
    ∀ d ∈ line.toList, d ≠ '\n' := by
  obtain ⟨part, among, rfl⟩ := List.mem_map.1 listed
  rintro d held rfl
  rw [String.toList_ofList] at held
  exact not_mem_of_mem_splitOn among held

theorem split_ne_nil (block : String) : split block ≠ [] := by
  simp [split, splitChars, List.splitOn_ne_nil]

/-- The last line of a text as it is printed, carriage returns included. -/
def last (text : String) : String :=
  .ofList (((dropFinal text.toList).splitOn '\n').getLastD [])

theorem dropFinal_concat (text : List Char) : dropFinal (text ++ ['\n']) = text := by
  rw [dropFinal, List.getLast?_concat, if_pos rfl, List.dropLast_concat]

theorem last_of_printed {above line : String}
    (closed : above = "" ∨ ∃ lines, above.toList = lines ++ ['\n'])
    (whole : '\n' ∉ line.toList) : last (above ++ line ++ "\n") = line := by
  have printed : (above ++ line ++ "\n").toList = (above.toList ++ line.toList) ++ ['\n'] := by
    rw [String.toList_append, String.toList_append]
    rfl
  have cut : ((above.toList ++ line.toList).splitOn '\n').getLastD [] = line.toList := by
    rcases closed with rfl | ⟨lines, eq⟩
    · rw [String.toList_empty, List.nil_append, List.splitOn_eq_singleton whole]
      rfl
    · rw [eq, List.append_assoc, List.singleton_append, List.splitOn_append_cons_self,
        List.splitOn_eq_singleton whole, List.getLastD_concat]
  rw [last, printed, dropFinal_concat, cut, String.ofList_toList]

def clean (block : String) : List Char := block.toList.filter (· != '\r')

/-- A line that can be read back: neither of the signs that close lines stands in it. -/
def IsWhole (line : String) : Prop := ∀ d ∈ line.toList, d ≠ '\r' ∧ d ≠ '\n'

instance (line : String) : Decidable (IsWhole line) :=
  List.decidableBAll (fun d => d ≠ '\r' ∧ d ≠ '\n') line.toList

inductive Break where
  | feed
  | returnFeed
  deriving DecidableEq, Repr

def Break.text : Break → String
  | feed => "\n"
  | returnFeed => "\r\n"

def write (rows : List (String × Break)) : String :=
  String.join (rows.map fun row => row.1 ++ row.2.text)

theorem clean_append (block more : String) : clean (block ++ more) = clean block ++ clean more := by
  simp [clean]

@[simp] theorem clean_break (b : Break) : clean b.text = ['\n'] := by
  cases b <;> decide

theorem clean_of_whole {line : String} (whole : IsWhole line) : clean line = line.toList := by
  rw [clean, List.filter_eq_self]
  intro d held
  simpa using (whole d held).1

theorem join_cons (line : String) {lines : List String} (some : lines ≠ []) :
    join (line :: lines) = line ++ "\n" ++ join lines :=
  String.intercalate_cons_of_ne_nil some

theorem toList_join (lines : List String) :
    (join lines).toList = ['\n'].intercalate (lines.map String.toList) :=
  String.toList_intercalate

theorem mem_join {lines : List String} {line : String} (listed : line ∈ lines) {d : Char}
    (held : d ∈ line.toList) : d ∈ (join lines).toList := by
  induction lines with
  | nil => simp at listed
  | cons first rest ih =>
    by_cases only : rest = []
    · obtain rfl : line = first := by simpa [only] using listed
      simpa [join, only] using held
    · rw [join_cons first only, String.toList_append, String.toList_append]
      rcases List.mem_cons.1 listed with rfl | later
      · simp [held]
      · simp [ih later]

theorem mem_of_mem_dropFinal {text : List Char} {d : Char} (held : d ∈ dropFinal text) :
    d ∈ text := by
  unfold dropFinal at held
  split at held
  · exact List.dropLast_subset text held
  · exact held

theorem dropFinal_eq_iff {text core : List Char} :
    dropFinal text = core ↔ text = core ++ ['\n'] ∨ text = core ∧ core.getLast? ≠ some '\n' := by
  unfold dropFinal
  by_cases closed : text.getLast? = some '\n'
  · rw [if_pos closed]
    constructor
    · rintro rfl
      obtain ⟨front, rfl⟩ := List.getLast?_eq_some_iff.1 closed
      exact .inl (by rw [List.dropLast_concat])
    · rintro (rfl | ⟨rfl, opened⟩)
      · exact List.dropLast_concat
      · exact absurd closed opened
  · rw [if_neg closed]
    constructor
    · rintro rfl
      exact .inr ⟨rfl, closed⟩
    · rintro (rfl | ⟨rfl, -⟩)
      · exact absurd List.getLast?_concat closed
      · rfl

theorem toList_join_split (block : String) :
    (join (split block)).toList = dropFinal (clean block) := by
  rw [toList_join, split, List.map_map]
  simp only [Function.comp_def, String.toList_ofList, List.map_id']
  exact List.intercalate_splitOn '\n'

theorem split_eq_of_dropFinal {block : String} {lines : List String} (some : lines ≠ [])
    (whole : ∀ line ∈ lines, IsWhole line) (cut : dropFinal (clean block) = (join lines).toList) :
    split block = lines := by
  have apart : ∀ part ∈ lines.map String.toList, '\n' ∉ part := by
    intro part listed held
    obtain ⟨line, among, rfl⟩ := List.mem_map.1 listed
    exact (whole line among '\n' held).2 rfl
  have parts : (dropFinal (clean block)).splitOn '\n' = lines.map String.toList := by
    rw [cut, toList_join]
    exact List.splitOn_intercalate '\n' apart (by simpa using some)
  rw [split, splitChars, ← clean, parts, List.map_map]
  simp [Function.comp_def]

theorem split_eq_iff {block : String} {lines : List String} (some : lines ≠ [])
    (whole : ∀ line ∈ lines, IsWhole line) :
    split block = lines ↔
      clean block = (join lines).toList ++ ['\n'] ∨
        clean block = (join lines).toList ∧ (join lines).toList.getLast? ≠ .some '\n' := by
  rw [← dropFinal_eq_iff]
  constructor
  · rintro rfl
    exact (toList_join_split block).symm
  · exact split_eq_of_dropFinal some whole

/-- Joined lines end with a line feed only if an empty line stands last below others. -/
theorem join_open_iff {lines : List String} (some : lines ≠ [])
    (whole : ∀ line ∈ lines, IsWhole line) :
    (join lines).toList.getLast? ≠ .some '\n' ↔ lines.length = 1 ∨ lines.getLast? ≠ .some "" := by
  obtain ⟨above, last, rfl⟩ : ∃ above last, lines = above ++ [last] :=
    ⟨_, _, (List.dropLast_concat_getLast some).symm⟩
  have inside : last.toList.getLast? ≠ .some '\n' := by
    intro ends
    exact (whole last (by simp) '\n' (List.mem_of_getLast? ends)).2 rfl
  by_cases only : above = []
  · simpa [join, only] using inside
  · have below : (join (above ++ [last])).toList = ((join above).toList ++ ['\n']) ++ last.toList := by
      rw [join, String.intercalate_append_of_ne_nil only (by simp), String.intercalate_singleton,
        String.toList_append, String.toList_append]
      rfl
    rw [below, List.getLast?_append, List.getLast?_concat]
    cases ends : last.toList.getLast? with
    | none =>
      have bare : last = "" := by simpa using ends
      simp [bare, only]
    | some d =>
      have held : last ≠ "" := by
        rintro rfl
        simp at ends
      rw [ends] at inside
      simpa [held] using inside

theorem clean_write {rows : List (String × Break)} (some : rows ≠ [])
    (whole : ∀ row ∈ rows, IsWhole row.1) :
    clean (write rows) = (join (rows.map (·.1))).toList ++ ['\n'] := by
  induction rows with
  | nil => exact absurd rfl some
  | cons row rest ih =>
    have first : clean (row.1 ++ row.2.text) = row.1.toList ++ ['\n'] := by
      rw [clean_append, clean_break, clean_of_whole (whole row (.head _))]
    rw [write, List.map_cons, String.join_cons, clean_append, first, ← write]
    by_cases only : rest = []
    · simp [only, write, clean, join]
    · rw [ih only fun row listed => whole row (.tail _ listed), List.map_cons,
        join_cons row.1 (by simpa using only), String.toList_append, String.toList_append,
        List.append_assoc]
      simp

theorem split_write {rows : List (String × Break)} (some : rows ≠ [])
    (whole : ∀ row ∈ rows, IsWhole row.1) : split (write rows) = rows.map (·.1) := by
  have lines : ∀ line ∈ rows.map (·.1), IsWhole line := by
    intro line listed
    obtain ⟨row, among, rfl⟩ := List.mem_map.1 listed
    exact whole row among
  exact (split_eq_iff (by simpa using some) lines).2 (.inl (clean_write some whole))

theorem isWhole_of_mem_split {block line : String} (listed : line ∈ split block) :
    IsWhole line := by
  intro d held
  refine ⟨?_, ne_of_mem_split listed d held⟩
  have among := mem_join listed held
  rw [toList_join_split] at among
  simpa using (List.mem_filter.1 (mem_of_mem_dropFinal among)).2

theorem split_eq_split_iff {block other : String} :
    split block = split other ↔ dropFinal (clean block) = dropFinal (clean other) := by
  constructor
  · intro same
    rw [← toList_join_split, same, toList_join_split]
  · intro same
    rw [split, split, splitChars, splitChars, ← clean, ← clean, same]

/-- Splitting undoes writing. A list of lines is read from exactly those blocks that are, carriage
returns apart, its lines joined and one line feed more, or its lines joined where these do not end
with a line feed. So lines that are closed one by one, in either way, are read back; nothing but
lines is read; and blocks are read alike only if they differ in carriage returns and one final line
feed at most. -/
theorem split_inverts_writing (block other : String) :
    (∀ lines, lines ≠ [] → (∀ line ∈ lines, IsWhole line) →
      (split block = lines ↔
        clean block = (join lines).toList ++ ['\n'] ∨
          clean block = (join lines).toList ∧ (join lines).toList.getLast? ≠ some '\n') ∧
      ((join lines).toList.getLast? ≠ some '\n' ↔
        lines.length = 1 ∨ lines.getLast? ≠ some "")) ∧
    (∀ rows, rows ≠ [] → (∀ row ∈ rows, IsWhole row.1) → split (write rows) = rows.map (·.1)) ∧
    (split block ≠ [] ∧ ∀ line ∈ split block, IsWhole line) ∧
    (split block = split other ↔ dropFinal (clean block) = dropFinal (clean other)) := by
  refine ⟨fun lines some whole => ?_, fun rows => split_write, ?_, split_eq_split_iff⟩
  · exact ⟨split_eq_iff some whole, join_open_iff some whole⟩
  · exact ⟨split_ne_nil block, fun line => isWhole_of_mem_split⟩

theorem split_inverts_writing_empty_lines :
    split "a\r\n\nb\r\n\n\r" = ["a", "", "b", ""] ∧
      split (write [("", .returnFeed), ("a", .feed), ("", .feed)]) = ["", "a", ""] ∧
      split "a\r\n\nb\r\n\n\r" = split "a\n\nb\n\r\n" := by
  obtain ⟨reads, writes, -, alike⟩ :=
    split_inverts_writing "a\r\n\nb\r\n\n\r" "a\n\nb\n\r\n"
  exact ⟨(reads ["a", "", "b", ""] (by decide) (by decide)).1.2 (.inl (by decide)),
    writes _ (by decide) (by decide), alike.2 (by decide)⟩

end RegexGolf.Text.Lines
