import RoundRobin.Proofs.Json.Pretty
import RoundRobin.Proofs.Json.Reader
import RoundRobin.Report.Json

namespace RoundRobin

/-!
# Reading reports back

A report can be read from its document, and its document from its text, so the
text says all that the report does.
-/

namespace Json

/-- The number that a document is. -/
def number? : Json → Option Nat
  | number n => some n
  | _ => none

/-- The text that a document is. -/
def text? : Json → Option String
  | text content => some content
  | _ => none

/-- The items that a document has, each of them read. -/
def items?
    (read? : Json → Option α) :
    Json →
    Option (List α)
  | array items => items.mapM read?
  | _ => none

/-- The first field of the name, read; there must be one. -/
def field?
    (name : String)
    (read? : Json → Option α) :
    Json →
    Option α
  | object fields => (fields.lookup name).bind read?
  | _ => none

/-- The first field of the name, read, if there is any of the name. -/
def optional?
    (name : String)
    (read? : Json → Option α) :
    Json →
    Option (Option α)
  | object fields =>
      match fields.lookup name with
      | none => some none
      | some content => (read? content).map some
  | _ => none

/-- Items that can be read back one by one can be read back together. -/
theorem items?_map
    {write : α → Json}
    {read? : Json → Option α}
    (reads : ∀ item, read? (write item) = some item)
    (items : List α) :
    items? read? (.array (items.map write)) = some items := by
  rw [items?]
  induction items with
  | nil => rfl
  | cons item rest inductionHypothesis =>
      rw [List.map_cons, List.mapM_cons, reads, inductionHypothesis]
      rfl

end Json

/-- The state of the name. -/
def TaskState.ofName? : String → Option TaskState
  | "ready" => some .ready
  | "completed" => some .completed
  | "failed" => some .failed
  | "abandoned" => some .abandoned
  | _ => none

/-- A number is a value, and so is an array of numbers. -/
def Value.ofJson? : Json → Option Value
  | .number n => some (.number n)
  | document => (document.items? Json.number?).map .list

/-- A bare number is an identity. -/
def TaskId.ofJson? (document : Json) : Option TaskId :=
  document.number?.map fun index => { index := index }

/-- What a report says about a task, read from its document. -/
def TaskReport.ofJson? (document : Json) : Option TaskReport := do
  let id ← document.field? "id" TaskId.ofJson?
  let label ← document.field? "label" Json.text?
  let state ←
    document.field? "state" fun state => state.text?.bind TaskState.ofName?
  let value ← document.optional? "value" Value.ofJson?
  let error ← document.optional? "error" Json.text?
  return {
    id := id
    label := label
    state := state
    value := value
    error := error }

/-- The counters, read from their document. -/
def Stats.ofJson? (document : Json) : Option Stats := do
  let tasksAdded ← document.field? "tasks_added" Json.number?
  let resumptions ← document.field? "resumptions" Json.number?
  let suspensions ← document.field? "suspensions" Json.number?
  let tasksCompleted ← document.field? "tasks_completed" Json.number?
  let tasksFailed ← document.field? "tasks_failed" Json.number?
  return {
    tasksAdded := tasksAdded
    resumptions := resumptions
    suspensions := suspensions
    tasksCompleted := tasksCompleted
    tasksFailed := tasksFailed }

namespace Report

/-- A report, read from its document. -/
def ofJson? (document : Json) : Option Report := do
  let tasks ← document.field? "tasks" (Json.items? TaskReport.ofJson?)
  let resolutionOrder ←
    document.field? "resolution_order" (Json.items? TaskId.ofJson?)
  let stats ← document.field? "stats" Stats.ofJson?
  return {
    tasks := tasks
    resolutionOrder := resolutionOrder
    stats := stats }

/-- A report, read from its text. -/
def ofJsonText? (text : String) : Option Report :=
  (Json.parse? text).bind ofJson?

end Report

theorem TaskState.ofName?_name (state : TaskState) :
    TaskState.ofName? state.name = some state := by
  cases state
  all_goals rfl

theorem Value.ofJson?_json (value : Value) :
    Value.ofJson? value.json = some value := by
  cases value with
  | number n => rfl
  | list items =>
      have reads (n : Nat) : Json.number? (.number n) = some n := rfl
      rw [json, ofJson?, Json.items?_map reads]
      · rfl
      · rintro _ ⟨⟩

theorem TaskReport.ofJson?_json (task : TaskReport) :
    TaskReport.ofJson? task.json = some task := by
  obtain ⟨id, label, state, value, error⟩ := task
  cases value
  all_goals
    cases error
    all_goals
      simp [TaskReport.ofJson?, TaskReport.json, Json.field?,
        Json.optional?, List.lookup_cons, TaskId.ofJson?, Json.number?,
        Json.text?, TaskState.ofName?_name, Value.ofJson?_json]

theorem Stats.ofJson?_json (stats : Stats) :
    Stats.ofJson? stats.json = some stats := by
  simp [Stats.ofJson?, Stats.json, Json.field?, List.lookup_cons, Json.number?]

theorem Report.ofJson?_json (report : Report) :
    Report.ofJson? report.json = some report := by
  have tasks :=
    Json.items?_map TaskReport.ofJson?_json report.tasks
  have reads (id : TaskId) :
      TaskId.ofJson? (.number id.index) = some id :=
    rfl
  have resolutionOrder := Json.items?_map reads report.resolutionOrder
  simp [Report.ofJson?, Report.json, Json.field?, List.lookup_cons, tasks,
    resolutionOrder, Stats.ofJson?_json]

/--
The text of a report is well formed, and nothing but the report can be read from
it, so no other report has the same text.
-/
theorem json_text_lossless (report : Report) :
    Json.Means report.jsonText report.json ∧
      (∀ document,
        Json.Means report.jsonText document →
        Report.ofJson? document = some report) ∧
      Report.ofJsonText? report.jsonText = some report ∧
      ∀ other : Report,
        other.jsonText = report.jsonText →
        other = report := by
  have means (report : Report) :
      Json.Means report.jsonText report.json :=
    Json.means_pretty report.json
  have reads (report : Report) :
      Report.ofJsonText? report.jsonText = some report := by
    rw [Report.ofJsonText?, Json.parse?_of_means (means report),
      Option.bind_some, Report.ofJson?_json]
  refine ⟨means report, ?_, reads report, ?_⟩
  · intro document means'
    rw [means'.unique (means report), Report.ofJson?_json]
  · intro other same
    have read := reads other
    rw [same, reads report] at read
    exact (Option.some.inj read).symm

end RoundRobin
