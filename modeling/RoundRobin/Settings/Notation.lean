import RoundRobin.Ron.Plain
import RoundRobin.Settings.Basic

namespace RoundRobin

/-!
# Settings as documents

Settings are written as a record of three sections, each a record itself. When
they are read, sections and fields may stand in any order and may be left out;
what is left out has its default. Unknown fields are passed over, whatever they
hold, but a known field must not stand twice.
-/

namespace Ron

/-- The bare name of a level. -/
def level? : Tree → Option Level
  | .name "debug" => some .debug
  | .name "info" => some .info
  | .name "warn" => some .warn
  | .name "error" => some .error
  | _ => none

/-- A truth value. -/
def boolean? : Tree → Option Bool
  | .boolean flag => some flag
  | _ => none

/-- A natural number of so many bits, its type named by the suffix if by any. -/
def natural?
    (suffix : String)
    (bits : Nat) :
    Tree →
    Option Nat
  | .number (.integer n) =>
      if n.suffix.all (· == suffix) && (Width.unsigned bits).holds n.value then
        some n.value.toNat
      else
        none
  | _ => none

/-- A list of things that are read alike. -/
def list?
    (item? : Tree → Option α) :
    Tree →
    Option (List α)
  | .list items => items.mapM item?
  | _ => none

/-- Whether a known record may carry a name in this document, or no name. -/
def Extensions.allow
    (extensions : Extensions)
    (expected : String) :
    Option String →
    Bool
  | some given => given == expected
  | none => !extensions.explicitNames

/-- The fields of a known record. -/
def fields?
    (extensions : Extensions)
    (expected : String) :
    Tree →
    Option (List (String × Tree))
  | .record given fields =>
      if extensions.allow expected given then some fields else none
  | .tuple given [] =>
      if extensions.allow expected given then some [] else none
  | _ => none

/-- The content of a known field, or its default if the field is left out. -/
def knownField?
    (key : String)
    (content? : Tree → Option α)
    (fallback : α)
    (fields : List (String × Tree)) :
    Option α :=
  match fields.filter fun entry => entry.1 == key with
  | [] => some fallback
  | [(_, content)] => content? content
  | _ => none

end Ron

/-- The level that the section on logging sets. -/
def Settings.logSection?
    (extensions : Ron.Extensions)
    (tree : Ron.Tree) :
    Option Level := do
  let fields ← Ron.fields? extensions "LogConfig" tree
  Ron.knownField? "level" Ron.level? .standard fields

/-- The settings of schedulers in their section. -/
def SchedulerConfig.ofTree?
    (extensions : Ron.Extensions)
    (tree : Ron.Tree) :
    Option SchedulerConfig := do
  let fields ← Ron.fields? extensions "SchedulerConfig" tree
  let initialCapacity ←
    Ron.knownField? "initial_capacity" (Ron.natural? "u64" 64) 16 fields
  let logResumptions ←
    Ron.knownField? "log_resumptions" Ron.boolean? true fields
  some
    { initialCapacity := initialCapacity
      logResumptions := logResumptions }

/-- The settings of searches in their section. -/
def SearchSettings.ofTree?
    (extensions : Ron.Extensions)
    (tree : Ron.Tree) :
    Option SearchSettings := do
  let fields ← Ron.fields? extensions "SearchConfig" tree
  let minDigits ←
    Ron.knownField? "min_digits" (Ron.list? (Ron.natural? "u32" 32)) [7, 9] fields
  let primeCount ←
    Ron.knownField? "prime_count" (Ron.natural? "u64" 64) 20 fields
  some
    { minDigits := minDigits
      primeCount := primeCount }

namespace Settings

/-- The settings that a document holds. -/
def ofTree?
    (extensions : Ron.Extensions)
    (tree : Ron.Tree) :
    Option Settings := do
  let fields ← Ron.fields? extensions "Config" tree
  let level ← Ron.knownField? "log" (logSection? extensions) .standard fields
  let scheduler ←
    Ron.knownField? "scheduler" (SchedulerConfig.ofTree? extensions) {} fields
  let search ←
    Ron.knownField? "search" (SearchSettings.ofTree? extensions) {} fields
  some
    { level := level
      scheduler := scheduler
      search := search }

/-- Read settings from the text of a document. -/
def parse? (text : String) : Option Settings :=
  (Ron.Document.parse? text).bind fun document =>
    ofTree? document.extensions document.tree

/-- The document of settings, in full. -/
def document (settings : Settings) : Ron.Plain :=
  .record
    [("log", .record [("level", .name settings.level.name)]),
      ("scheduler", .record
        [("initial_capacity", .number settings.scheduler.initialCapacity),
          ("log_resumptions", .boolean settings.scheduler.logResumptions)]),
      ("search", .record
        [("min_digits", .list (settings.search.minDigits.map .number)),
          ("prime_count", .number settings.search.primeCount)])]

/-- Settings as the text of a document. -/
def text (settings : Settings) : String :=
  settings.document.text

end Settings

end RoundRobin
