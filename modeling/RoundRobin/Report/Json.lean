import RoundRobin.Json.Basic
import RoundRobin.Report.Basic

namespace RoundRobin

/-!
# Reports as JSON

A report becomes an object whose fields stand in a fixed order. The value and
the error of a task that has none are left out.
-/

/-- A value as a document: a number, or an array of numbers. -/
def Value.json : Value → Json
  | number n => .number n
  | list items => .array (items.map Json.number)

/-- What a report says about a task, as a document. -/
def TaskReport.json (task : TaskReport) : Json :=
  .object
    ([("id", .number task.id.index),
      ("label", .text task.label),
      ("state", .text task.state.name)] ++
      (task.value.map fun value => ("value", value.json)).toList ++
      (task.error.map fun error => ("error", .text error)).toList)

/-- The counters, as a document. -/
def Stats.json (stats : Stats) : Json :=
  .object
    [("tasks_added", .number stats.tasksAdded),
      ("resumptions", .number stats.resumptions),
      ("suspensions", .number stats.suspensions),
      ("tasks_completed", .number stats.tasksCompleted),
      ("tasks_failed", .number stats.tasksFailed)]

namespace Report

/-- A report as a document. -/
def json (report : Report) : Json :=
  .object
    [("tasks", .array (report.tasks.map TaskReport.json)),
      ("resolution_order",
        .array (report.resolutionOrder.map fun id => .number id.index)),
      ("stats", report.stats.json)]

/-- A report as pretty JSON text. -/
def jsonText (report : Report) : String :=
  report.json.pretty 0

end Report

end RoundRobin
