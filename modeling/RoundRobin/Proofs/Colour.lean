import RoundRobin.Proofs.Digits
import RoundRobin.Report.Text

namespace RoundRobin

/-!
# Colour leaves the text as it is

A terminal takes an escape character and all up to the next `m` for a sequence
that changes how it writes, and shows everything else. So a text falls into
characters that are shown and sequences. The two ways to write a report fall into
the same characters; the coloured one has two sequences for each task besides, with
the state of the task, filled up to its column, between them.
-/

namespace Terminal

/-- The character with which a sequence begins. -/
def escape : Char :=
  '\x1b'

/-- There is no escape character in the text. -/
def Unescaped (text : String) : Prop :=
  escape ∉ text.toList

instance (text : String) : Decidable (Unescaped text) :=
  inferInstanceAs (Decidable (escape ∉ text.toList))

/-- What a text for a terminal falls into. -/
inductive Piece where
  | visible (character : Char)
  | sequence (characters : List Char)
  deriving DecidableEq, Repr

namespace Piece

/-- The character that is shown. -/
def character? : Piece → Option Char
  | visible character => some character
  | sequence _ => none

/-- The characters of a sequence. -/
def sequence? : Piece → Option (List Char)
  | visible _ => none
  | sequence characters => some characters

end Piece

/--
The pieces of some characters. Within a sequence, what has been read of it is given;
of one that never ends nothing is shown.
-/
def cut :
    (begun : Option (List Char)) →
    List Char →
    List Piece
  | _, [] => []
  | none, character :: rest =>
      if character = escape then cut (some [escape]) rest
      else .visible character :: cut none rest
  | some begun, character :: rest =>
      if character = 'm' then .sequence (begun ++ ['m']) :: cut none rest
      else cut (some (begun ++ [character])) rest

/-- The pieces of a text. -/
def pieces (text : String) : List Piece :=
  cut none text.toList

/-- The text without its sequences. -/
def stripped (text : String) : String :=
  String.ofList ((pieces text).filterMap Piece.character?)

/-- The sequences in a text. -/
def sequences (text : String) : List (List Char) :=
  (pieces text).filterMap Piece.sequence?

/--
What is shown between the first sequence and the second, between the third and the
fourth, and so on. Between two such, what has been shown since the first is given.
-/
def enclosed :
    (opened : Option (List Char)) →
    List Piece →
    List (List Char)
  | _, [] => []
  | none, .visible _ :: rest => enclosed none rest
  | none, .sequence _ :: rest => enclosed (some []) rest
  | some shown, .visible character :: rest =>
      enclosed (some (shown ++ [character])) rest
  | some shown, .sequence _ :: rest => shown :: enclosed none rest

section

variable
  {text first second : String}
  {characters : List Char}

/-- Characters without an escape among them are shown. -/
theorem cut_append
    (unescaped : escape ∉ characters)
    (rest : List Char) :
    cut none (characters ++ rest) =
      characters.map Piece.visible ++ cut none rest := by
  induction characters with
  | nil => rfl
  | cons character later inductionHypothesis =>
      have other := List.ne_of_not_mem_cons unescaped
      have others := List.not_mem_of_not_mem_cons unescaped
      rw [List.cons_append, cut, if_neg (Ne.symm other),
        inductionHypothesis others]
      rfl

/-- What is without an escape is all shown. -/
theorem pieces_of_unescaped (unescaped : Unescaped text) :
    pieces text = text.toList.map Piece.visible := by
  have shown := cut_append unescaped []
  rwa [List.append_nil, cut, List.append_nil] at shown

/-- A sequence that has begun goes on to the next `m`. -/
theorem cut_begun
    (unended : 'm' ∉ characters)
    (begun rest : List Char) :
    cut (some begun) (characters ++ 'm' :: rest) =
      .sequence (begun ++ characters ++ ['m']) :: cut none rest := by
  induction characters generalizing begun with
  | nil =>
      rw [List.nil_append, cut, if_pos rfl, List.append_nil]
  | cons character later inductionHypothesis =>
      have other := List.ne_of_not_mem_cons unended
      have others := List.not_mem_of_not_mem_cons unended
      rw [List.cons_append, cut, if_neg (Ne.symm other),
        inductionHypothesis others, List.append_assoc begun]
      rfl

theorem filterMap_character?_visible (characters : List Char) :
    (characters.map Piece.visible).filterMap Piece.character? =
      characters := by
  rw [List.filterMap_map]
  exact List.filterMap_some

theorem filterMap_sequence?_visible (characters : List Char) :
    (characters.map Piece.visible).filterMap Piece.sequence? = [] := by
  rw [List.filterMap_map]
  exact List.filterMap_eq_nil_iff.mpr fun _ _ => rfl

/-- Outside of sequences nothing that is shown is enclosed. -/
theorem enclosed_outside
    (characters : List Char)
    (rest : List Piece) :
    enclosed none (characters.map Piece.visible ++ rest) =
      enclosed none rest := by
  induction characters with
  | nil => rfl
  | cons character later inductionHypothesis => exact inductionHypothesis

/-- Between two sequences all that is shown is enclosed. -/
theorem enclosed_between
    (shown characters second : List Char)
    (rest : List Piece) :
    enclosed (some shown)
        (characters.map Piece.visible ++ .sequence second :: rest) =
      (shown ++ characters) :: enclosed none rest := by
  induction characters generalizing shown with
  | nil =>
      rw [List.append_nil]
      rfl
  | cons character later inductionHypothesis =>
      have later := inductionHypothesis (shown ++ [character])
      rwa [List.append_assoc] at later

theorem unescaped_append :
    Unescaped (first ++ second) ↔ Unescaped first ∧ Unescaped second := by
  rw [Unescaped, String.toList_append, List.mem_append, not_or]
  rfl

namespace Unescaped

theorem append
    (before : Unescaped first)
    (after : Unescaped second) :
    Unescaped (first ++ second) :=
  unescaped_append.mpr ⟨before, after⟩

/-- Blanks that fill a text up are no escapes. -/
theorem padded
    (unescaped : Unescaped text)
    (width : Nat) :
    Unescaped (Report.padded width text) := by
  rw [Report.padded, String.pushn_eq_repeat_push]
  generalize width - text.length = missing
  induction missing with
  | zero => exact unescaped
  | succ fewer inductionHypothesis =>
      rw [Nat.repeat, Unescaped, String.toList_push, List.mem_append,
        not_or]
      exact ⟨inductionHypothesis, by decide⟩

/-- Numbers are written in digits. -/
theorem repr (n : Nat) : Unescaped n.repr := by
  intro member
  have digit := isDigit_of_mem_repr member
  cases digit

theorem intercalate
    {between : String}
    {parts : List String}
    (parting : Unescaped between)
    (unescaped : ∀ part ∈ parts, Unescaped part) :
    Unescaped (between.intercalate parts) := by
  rw [Unescaped, String.toList_intercalate]
  induction parts with
  | nil => exact List.not_mem_nil
  | cons part others inductionHypothesis =>
      obtain ⟨here, there⟩ := List.forall_mem_cons.mp unescaped
      cases others with
      | nil =>
          rw [List.map_singleton, List.intercalate_singleton]
          exact here
      | cons next others =>
          have rest := inductionHypothesis there
          rw [List.map_cons] at rest ⊢
          rw [List.map_cons, List.intercalate_cons_cons, List.mem_append,
            List.mem_append, not_or, not_or]
          exact ⟨⟨here, parting⟩, rest⟩

/-- So are values. -/
theorem value (value : Value) : Unescaped value.text := by
  cases value with
  | number n => exact .repr n
  | list items =>
      have written : ∀ part ∈ items.map Nat.repr, Unescaped part := by
        intro part member
        obtain ⟨n, -, rfl⟩ := List.mem_map.mp member
        exact .repr n
      exact
        .append (.append (by decide) (.intercalate (by decide) written))
          (by decide)

theorem id (id : TaskId) : Unescaped id.text :=
  .append (.append (by decide) (.repr id.index)) (by decide)

end Unescaped

end

end Terminal

open Terminal

namespace Colour

/-- The sequence that starts a colour. -/
def opening (colour : Colour) : List Char :=
  escape :: '[' :: (colour.code.toList ++ ['m'])

/-- The sequence that ends a colour. -/
def closing : List Char :=
  [escape, '[', '3', '9', 'm']

/-- A painted text is shown between the sequences of its colour. -/
theorem cut_paint
    (colour : Colour)
    {text : String}
    (unescaped : Unescaped text)
    (rest : List Char) :
    cut none ((colour.paint text).toList ++ rest) =
      .sequence colour.opening ::
        (text.toList.map Piece.visible ++
          .sequence closing :: cut none rest) := by
  have painted :
      (colour.paint text).toList ++ rest =
        escape ::
          (('[' :: colour.code.toList) ++
            'm' ::
              (text.toList ++ escape :: (['[', '3', '9'] ++ 'm' :: rest))) := by
    simp [paint, escape]
  have unended : 'm' ∉ '[' :: colour.code.toList := by
    cases colour
    all_goals decide
  rw [painted, cut, if_pos rfl, cut_begun unended, cut_append unescaped,
    cut, if_pos rfl, cut_begun (by decide)]
  rfl

end Colour

namespace TaskReport

variable {task : TaskReport}

/-- There is no escape character in what was given for the task. -/
structure Unescaped (task : TaskReport) : Prop where
  label : Terminal.Unescaped task.label
  error : ∀ error ∈ task.error, Terminal.Unescaped error

/-- What the line about a task has before its state. -/
def lead (task : TaskReport) : String :=
  task.id.text ++ " " ++ Report.padded Report.labelWidth task.label ++ " "

/-- The state, filled up to its column. -/
def field (task : TaskReport) : String :=
  Report.padded Report.stateWidth task.state.name

/-- What the line about a task has behind its state. -/
def trail (task : TaskReport) : String :=
  " " ++ task.detail ++ "\n"

theorem line_eq
    (task : TaskReport)
    (coloured : Bool) :
    task.line coloured =
      task.lead ++ task.stateField coloured ++ task.trail := by
  simp only [line, lead, trail, String.append_assoc]

/-- No name of a state is longer than its column is wide. -/
theorem length_field (task : TaskReport) :
    task.field.toList.length = 9 := by
  unfold field
  cases task.state
  all_goals decide

namespace Unescaped

theorem lead (unescaped : task.Unescaped) :
    Terminal.Unescaped task.lead := by
  have label := unescaped.label.padded Report.labelWidth
  unfold TaskReport.lead
  exact .append (.append (.append (.id _) (by decide)) label) (by decide)

theorem field (task : TaskReport) :
    Terminal.Unescaped task.field := by
  have name : Terminal.Unescaped task.state.name := by
    cases task.state
    all_goals decide
  unfold TaskReport.field
  exact name.padded Report.stateWidth

theorem trail (unescaped : task.Unescaped) :
    Terminal.Unescaped task.trail := by
  have detail : Terminal.Unescaped task.detail := by
    unfold detail
    split
    · exact .value _
    · next given => exact unescaped.error _ given
    · decide
  unfold TaskReport.trail
  exact .append (.append (by decide) detail) (by decide)

end Unescaped

/-- The pieces of the coloured line. -/
def pieces (task : TaskReport) : List Piece :=
  task.lead.toList.map Piece.visible ++
    .sequence task.state.colour.opening ::
      (task.field.toList.map Piece.visible ++
        .sequence Colour.closing :: task.trail.toList.map Piece.visible)

/-- The coloured line has two sequences, around the state. -/
theorem cut_line
    (unescaped : task.Unescaped)
    (rest : List Char) :
    cut none ((task.line true).toList ++ rest) =
      task.pieces ++ cut none rest := by
  have painted :
      task.stateField true = task.state.colour.paint task.field :=
    rfl
  rw [line_eq, painted]
  simp only [String.toList_append, List.append_assoc]
  rw [cut_append unescaped.lead, Colour.cut_paint _ (Unescaped.field task),
    cut_append unescaped.trail]
  simp only [pieces, List.append_assoc, List.cons_append]

/-- Without its sequences it is the line without a colour. -/
theorem filterMap_character?_pieces (task : TaskReport) :
    task.pieces.filterMap Piece.character? = (task.line false).toList := by
  have plain : task.stateField false = task.field := rfl
  rw [line_eq, plain]
  simp only [pieces, List.filterMap_append, List.filterMap_cons,
    Piece.character?, filterMap_character?_visible, String.toList_append,
    List.append_assoc]

theorem filterMap_sequence?_pieces (task : TaskReport) :
    task.pieces.filterMap Piece.sequence? =
      [task.state.colour.opening, Colour.closing] := by
  simp only [pieces, List.filterMap_append, List.filterMap_cons,
    Piece.sequence?, filterMap_sequence?_visible, List.nil_append]

theorem enclosed_pieces
    (task : TaskReport)
    (rest : List Piece) :
    enclosed none (task.pieces ++ rest) =
      task.field.toList :: enclosed none rest := by
  simp only [pieces, List.append_assoc, List.cons_append,
    enclosed_outside, enclosed, enclosed_between, List.nil_append]

end TaskReport

namespace Report

variable {report : Report}

/-- The lines of a report that are not about tasks. -/
def ending (report : Report) : String :=
  "resolved: " ++
    " -> ".intercalate (report.resolutionOrder.map TaskId.text) ++ "\n" ++
    "resumptions: " ++ report.stats.resumptions.repr ++
    ", suspensions: " ++ report.stats.suspensions.repr ++
    ", completed: " ++ report.stats.tasksCompleted.repr ++
    ", failed: " ++ report.stats.tasksFailed.repr ++ "\n"

/-- For each task the state is enclosed. -/
theorem enclosed_lines
    (tasks : List TaskReport)
    (rest : List Piece) :
    enclosed none (tasks.flatMap TaskReport.pieces ++ rest) =
      (tasks.map fun task => task.field.toList) ++ enclosed none rest := by
  induction tasks with
  | nil => rfl
  | cons task others inductionHypothesis =>
      rw [List.flatMap_cons, List.append_assoc,
        TaskReport.enclosed_pieces, inductionHypothesis, List.map_cons,
        List.cons_append]

/-- The coloured lines fall into pieces one by one. -/
theorem cut_lines
    {tasks : List TaskReport}
    (unescaped : ∀ task ∈ tasks, task.Unescaped)
    (rest : List Char) :
    cut none
        ((tasks.flatMap fun task => (task.line true).toList) ++ rest) =
      tasks.flatMap TaskReport.pieces ++ cut none rest := by
  induction tasks with
  | nil => rfl
  | cons task others inductionHypothesis =>
      obtain ⟨here, there⟩ := List.forall_mem_cons.mp unescaped
      rw [List.flatMap_cons, List.flatMap_cons, List.append_assoc,
        TaskReport.cut_line here, inductionHypothesis there,
        List.append_assoc]

theorem toList_text
    (report : Report)
    (coloured : Bool) :
    (report.text coloured).toList =
      (report.tasks.flatMap fun task => (task.line coloured).toList) ++
        report.ending.toList := by
  have parted :
      report.text coloured =
        String.join (report.tasks.map fun task => task.line coloured) ++
          report.ending := by
    unfold text ending
    simp only [String.append_assoc]
  rw [parted, String.toList_append, String.toList_join, List.flatMap_map]

/-- Nothing in these lines was given by anybody. -/
theorem unescaped_ending (report : Report) :
    Unescaped report.ending := by
  have names :
      ∀ part ∈ report.resolutionOrder.map TaskId.text, Unescaped part := by
    intro part member
    obtain ⟨id, -, rfl⟩ := List.mem_map.mp member
    exact .id id
  have order :
      Unescaped
        (" -> ".intercalate (report.resolutionOrder.map TaskId.text)) :=
    .intercalate (by decide) names
  unfold ending
  simp only [unescaped_append, order, Unescaped.repr, and_true]
  decide

/-- There is no escape character in what was given for the tasks. -/
def Unescaped (report : Report) : Prop :=
  ∀ task ∈ report.tasks, task.Unescaped

/-- The coloured text falls into what the lines about the tasks fall into, and the ending. -/
theorem pieces_text_true (unescaped : report.Unescaped) :
    pieces (report.text true) =
      report.tasks.flatMap TaskReport.pieces ++
        report.ending.toList.map Piece.visible := by
  have ending := pieces_of_unescaped report.unescaped_ending
  rw [pieces] at ending
  rw [pieces, toList_text, cut_lines unescaped, ending]

/-- Without a colour no escape character is written. -/
theorem unescaped_text_false (unescaped : report.Unescaped) :
    Terminal.Unescaped (report.text false) := by
  rw [Terminal.Unescaped, toList_text, List.mem_append, List.mem_flatMap,
    not_or]
  refine ⟨?_, report.unescaped_ending⟩
  rintro ⟨task, member, there⟩
  have given := unescaped task member
  have line : Terminal.Unescaped (task.line false) := by
    rw [TaskReport.line_eq]
    exact (given.lead.append (TaskReport.Unescaped.field task)).append given.trail
  exact line there

theorem stripped_text_true (unescaped : report.Unescaped) :
    stripped (report.text true) = report.text false := by
  apply String.toList_injective
  rw [stripped, String.toList_ofList, pieces_text_true unescaped,
    toList_text, List.filterMap_append, filterMap_character?_visible,
    List.filterMap_flatMap]
  simp only [TaskReport.filterMap_character?_pieces]

theorem sequences_text_true (unescaped : report.Unescaped) :
    sequences (report.text true) =
      report.tasks.flatMap fun task =>
        [task.state.colour.opening, Colour.closing] := by
  rw [sequences, pieces_text_true unescaped, List.filterMap_append,
    filterMap_sequence?_visible, List.append_nil, List.filterMap_flatMap]
  simp only [TaskReport.filterMap_sequence?_pieces]

theorem enclosed_text_true (unescaped : report.Unescaped) :
    enclosed none (pieces (report.text true)) =
      report.tasks.map fun task => task.field.toList := by
  have outside := enclosed_outside report.ending.toList []
  rw [List.append_nil] at outside
  rw [pieces_text_true unescaped, enclosed_lines, outside]
  exact List.append_nil _

end Report

/-- How the two ways to write a report are alike, and where they differ. -/
structure Report.ColourInvisible (report : Report) : Prop where
  /-- Without its sequences the coloured text is the other. -/
  stripped : Terminal.stripped (report.text true) = report.text false
  /-- For each task there are two sequences: one starts the colour of its state, one ends it. -/
  sequences :
    Terminal.sequences (report.text true) =
      report.tasks.flatMap fun task =>
        [task.state.colour.opening, Colour.closing]
  /-- Between the two stands the state, filled up with blanks. -/
  enclosed :
    Terminal.enclosed none (pieces (report.text true)) =
      report.tasks.map fun task =>
        (Report.padded Report.stateWidth task.state.name).toList
  /-- It always takes nine characters. -/
  nine :
    ∀ field ∈ Terminal.enclosed none (pieces (report.text true)),
      field.length = 9
  /-- The other text has no sequence, and no escape character either. -/
  uncoloured :
    Terminal.sequences (report.text false) = [] ∧
      Terminal.Unescaped (report.text false)

/--
Whatever the report says, as long as no label and no error has an escape character
in it, its colours are invisible to who cannot see them.
-/
theorem Report.colour_invisible
    {report : Report}
    (unescaped : report.Unescaped) :
    report.ColourInvisible where
  stripped := stripped_text_true unescaped
  sequences := sequences_text_true unescaped
  enclosed := enclosed_text_true unescaped
  nine := by
    intro field member
    rw [enclosed_text_true unescaped] at member
    obtain ⟨task, -, rfl⟩ := List.mem_map.mp member
    exact task.length_field
  uncoloured := by
    have plain := unescaped_text_false unescaped
    rw [Terminal.sequences, pieces_of_unescaped plain]
    exact ⟨filterMap_sequence?_visible _, plain⟩

/-- Labels like parts of sequences, an error of two lines, and a task that was abandoned. -/
def Report.assorted : Report where
  tasks :=
    [{ id := ⟨0⟩
       label := "[32m"
       state := .completed
       value := some (.list [2, 3])
       error := none },
      { id := ⟨1⟩
        label := "m"
        state := .failed
        value := none
        error := some "lost\nmost" },
      { id := ⟨2⟩
        label := ""
        state := .abandoned
        value := none
        error := none }]
  resolutionOrder := [⟨1⟩, ⟨0⟩]
  stats := {}

/-- There are six sequences in it, around three states. -/
theorem Report.colour_invisible_in_assorted :
    assorted.Unescaped ∧
      stripped (assorted.text true) = assorted.text false ∧
      (sequences (assorted.text true)).length = 6 ∧
      enclosed none (pieces (assorted.text true)) =
        ["completed".toList, "failed   ".toList, "abandoned".toList] := by
  have unescaped : assorted.Unescaped := by
    intro task member
    simp only [assorted, List.mem_cons, List.not_mem_nil, or_false] at member
    rcases member with rfl | rfl | rfl
    all_goals exact ⟨by decide, by decide⟩
  have invisible := colour_invisible unescaped
  refine ⟨unescaped, invisible.stripped, ?_, ?_⟩
  · rw [invisible.sequences]
    rfl
  · rw [invisible.enclosed]
    decide

end RoundRobin
