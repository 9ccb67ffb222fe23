import RoundRobin.CommandLine.Options

namespace RoundRobin.CommandLine

/-!
# Requests

The arguments of the program are options, the name of a command, and options
again. The general options can stand on either side of the name, and those
behind it come first.
-/

/-- The commands. -/
inductive Command where
  /-- Search for Lucas numbers of given lengths; none given means those of the settings. -/
  | search (minDigits : List Nat)
  /-- Collect the primes among the first Lucas numbers. -/
  | primes (count : Option Nat)
  | demo
  | version
  deriving DecidableEq, Repr

/-- The options that every command has. -/
structure GeneralOptions where
  verbose : Bool
  settingsFile : Option String
  format : Format
  deriving DecidableEq, Repr

/-- What the arguments ask for. -/
inductive Request where
  | run (command : Command) (options : GeneralOptions)
  | notice (notice : Notice)
  deriving DecidableEq, Repr

/-- The options that can stand before and behind the name of a command. -/
def generalFlags : List Flag :=
  [.verbose, .settingsFile, .format, .notice .help]

/-- The options of a command of its own, and the command that a selection of them makes. -/
def command? : String → Option (List Flag × (Selection → Command))
  | "search" => some ([.minDigits], fun selection => .search selection.minDigits)
  | "primes" => some ([.count], fun selection => .primes selection.count)
  | "demo" => some ([], fun _ => .demo)
  | "version" => some ([], fun _ => .version)
  | _ => none

/-- The general options of two selections; the inner one comes first. -/
def GeneralOptions.ofSelections (outer inner : Selection) : GeneralOptions where
  verbose := inner.verbose || outer.verbose
  settingsFile := inner.settingsFile.orElse fun _ => outer.settingsFile
  format := (inner.format.orElse fun _ => outer.format).getD .text

/-- Whether help can be asked for with these arguments: none, or the name of a command. -/
def isHelpTopic : List String → Bool
  | [] => true
  | [name] => name == "help" || (command? name).isSome
  | _ => false

/-- What arguments ask for; nothing if they are misused. -/
def Request.parse? (arguments : List String) : Option Request :=
  match scan (.notice .version :: generalFlags) arguments {} with
  | .finished _ => none
  | .misuse => none
  | .notice wanted => some (.notice wanted)
  | .word "help" topic _ =>
      if isHelpTopic topic then some (.notice .help) else none
  | .word name rest outer =>
      match command? name with
      | none => none
      | some (flags, command) =>
          match scan (flags ++ generalFlags) rest {} with
          | .finished inner =>
              some (.run (command inner) (.ofSelections outer inner))
          | .notice wanted => some (.notice wanted)
          | .word _ _ _ => none
          | .misuse => none

end RoundRobin.CommandLine
