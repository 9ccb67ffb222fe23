namespace RoundRobin

/-!
# Severity levels of log entries

Levels are ordered from `debug` to `error`. A threshold admits the entries of
its own level and of the levels above.
-/

/-- The severity of a log entry. -/
inductive Level where
  | debug
  | info
  | warn
  | error
  deriving DecidableEq, Repr

namespace Level

/-- The level used where none is chosen. -/
def standard : Level :=
  info

instance : Inhabited Level where
  default := standard

/-- The lowercase name of a level. -/
def name : Level → String
  | debug => "debug"
  | info => "info"
  | warn => "warn"
  | error => "error"

/-- The uppercase tag at the head of a log line. -/
def tag : Level → String
  | debug => "DEBUG"
  | info => "INFO"
  | warn => "WARN"
  | error => "ERROR"

/-- The place of a level in the order of severity. -/
def rank : Level → Nat
  | debug => 0
  | info => 1
  | warn => 2
  | error => 3

/-- Whether a threshold lets entries of a severity through. -/
def admits (threshold severity : Level) : Bool :=
  threshold.rank ≤ severity.rank

/-- The level with a name, if there is one; `warning` is a second name of `warn`. -/
def ofName? : String → Option Level
  | "debug" => some debug
  | "info" => some info
  | "warn" => some warn
  | "warning" => some warn
  | "error" => some error
  | _ => none

/-- A text that names no level, its ASCII letters in lower case. -/
structure UnknownName where
  lowered : String
  deriving DecidableEq, Repr

/-- The wording of the complaint about an unknown name. -/
def UnknownName.message (unknown : UnknownName) : String :=
  "unknown log level: " ++ unknown.lowered

/-- Read a level from its name, taking ASCII letters of either case. -/
def parse (text : String) : Except UnknownName Level :=
  let lowered := text.map Char.toLower
  match ofName? lowered with
  | some level => .ok level
  | none => .error { lowered := lowered }

/-- Every level is found under its own name. -/
@[simp] theorem ofName?_name (level : Level) : ofName? level.name = some level := by
  cases level <;> rfl

end Level

end RoundRobin
