import RoundRobin.Report.Basic

namespace RoundRobin

/-!
# Reports as text

A report is written with one line per task and two closing lines. On a
terminal the state of a task can be coloured. The state is padded before it is
coloured, so that escape sequences do not count towards its width.
-/

/-- The colours of task states. -/
inductive Colour where
  | green
  | red
  | yellow
  deriving DecidableEq, Repr

namespace Colour

/-- The number of a foreground colour. -/
def code : Colour → String
  | green => "32"
  | red => "31"
  | yellow => "33"

/-- A text in a colour. -/
def paint
    (colour : Colour)
    (text : String) :
    String :=
  "\x1b[" ++ colour.code ++ "m" ++ text ++ "\x1b[39m"

end Colour

/-- The colour in which a state is shown. -/
def TaskState.colour : TaskState → Colour
  | ready => .yellow
  | completed => .green
  | failed => .red
  | abandoned => .red

namespace Report

/-- A text filled up with blanks to a width. -/
def padded
    (width : Nat)
    (text : String) :
    String :=
  text.pushn ' ' (width - text.length)

/-- The width of the column of states. -/
def stateWidth : Nat :=
  9

/-- The width of the column of labels. -/
def labelWidth : Nat :=
  24

end Report

namespace TaskReport

/-- What a task ended in: its value, else its error, else nothing. -/
def detail (task : TaskReport) : String :=
  match task.value, task.error with
  | some value, _ => value.text
  | none, some error => error
  | none, none => ""

/-- The state of a task, filled up to its column and coloured if asked for. -/
def stateField
    (task : TaskReport)
    (coloured : Bool) :
    String :=
  let field := Report.padded Report.stateWidth task.state.name
  if coloured then task.state.colour.paint field else field

/-- The line about a task. -/
def line
    (task : TaskReport)
    (coloured : Bool) :
    String :=
  task.id.text ++ " " ++ Report.padded Report.labelWidth task.label ++ " " ++
    task.stateField coloured ++ " " ++ task.detail ++ "\n"

end TaskReport

namespace Report

/-- A report as text. -/
def text
    (report : Report)
    (coloured : Bool) :
    String :=
  String.join (report.tasks.map fun task => task.line coloured) ++
    "resolved: " ++
    " -> ".intercalate (report.resolutionOrder.map TaskId.text) ++ "\n" ++
    "resumptions: " ++ report.stats.resumptions.repr ++
    ", suspensions: " ++ report.stats.suspensions.repr ++
    ", completed: " ++ report.stats.tasksCompleted.repr ++
    ", failed: " ++ report.stats.tasksFailed.repr ++ "\n"

end Report

end RoundRobin
