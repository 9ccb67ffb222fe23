import RoundRobin.CommandLine.Request
import RoundRobin.Report.Json
import RoundRobin.Report.Text
import RoundRobin.Settings.File
import RoundRobin.Workload

namespace RoundRobin.CommandLine

/-!
# Running commands

A command is run with the settings that the environment and the options lead
to. It logs on the console and writes a report behind the log.
-/

/-- How the program ends. -/
structure Ending where
  code : Nat
  output : String := ""
  complaint : String := ""
  deriving DecidableEq, Repr

/-- The name of the program with its version. -/
def versionLine : String :=
  "coopsched 0.1.0\n"

/-- How the program is used, line by line. -/
def usageLines : List String :=
  ["Usage: coopsched [OPTIONS] <COMMAND>",
    "",
    "Commands:",
    "  search   Search for the first Lucas number of each number of digits",
    "  primes   Collect the primes among the first Lucas numbers",
    "  demo     Run tasks that end in every way",
    "  version  Print the version",
    "",
    "Options:",
    "  -d, --min-digits <N>   Number of digits to search for (search, repeatable)",
    "  -n, --count <N>        How many Lucas numbers to test (primes)",
    "  -v, --verbose          Log everything",
    "  -c, --config <FILE>    File of settings",
    "  -f, --format <FORMAT>  Format of the report: text or json",
    "  -h, --help             Print this help",
    "  -V, --version          Print the version"]

/-- How the program is used. -/
def usage : String :=
  String.join (usageLines.map (· ++ "\n"))

/-- The turns that a workload may take; far more than any of them needs. -/
def amplePatience : Nat :=
  1000000000000

/-- A report in a format. -/
def Format.write
    (report : Report) :
    Format →
    String
  | text => report.text false
  | json => report.jsonText ++ "\n"

/-- How the program ends when a workload has been run. -/
def Ending.ofWorkload
    (format : Format) :
    Except WorkloadError (RecipeWorld × Report) →
    Ending
  | .ok (world, report) =>
      { code := 0
        output :=
          String.join (world.log.toList.map fun entry => entry.consoleLine ++ "\n") ++
            format.write report }
  | .error (.panicked panic) =>
      { code := 101, complaint := "\n" ++ panic.message ++ "\n" }
  | .error e =>
      { code := 1, complaint := "Error: " ++ e.message ++ "\n" }

/-- The workload of a command, if it has one, run with settings. -/
def Command.workload?
    (settings : Settings)
    (world : RecipeWorld) :
    Command →
    Option (Except WorkloadError (RecipeWorld × Report))
  | search minDigits =>
      let thresholds :=
        if minDigits.isEmpty then settings.search.minDigits else minDigits
      some (runSearch amplePatience settings.scheduler thresholds world)
  | primes count =>
      some
        (runPrimes amplePatience settings.scheduler
          (count.getD settings.search.primeCount) world)
  | demo => some (runDemo amplePatience settings.scheduler world)
  | version => none

/-- How a command that is run with settings ends. -/
def Command.ending
    (command : Command)
    (options : GeneralOptions)
    (settings : Settings) :
    Ending :=
  let level := if options.verbose then .debug else settings.level
  match command.workload? settings (World.empty (some level)) with
  | some result => .ofWorkload options.format result
  | none => { code := 0, output := versionLine }

/-- How doing what is asked for ends; files are read by `fetch`. -/
def Request.ending
    (environment : Environment)
    (fetch : String → Fetched) :
    Request →
    Ending
  | notice .version => { code := 0, output := versionLine }
  | notice .help => { code := 0, output := usage }
  | run command options =>
      match Settings.load fetch (environment.origin options.settingsFile) with
      | .ok settings => command.ending options settings
      | .error _ => { code := 1, complaint := "Error: Failed to load config\n" }

/-- Run the program with arguments. -/
def run
    (environment : Environment)
    (fetch : String → Fetched)
    (arguments : List String) :
    Ending :=
  match Request.parse? arguments with
  | some request => request.ending environment fetch
  | none => { code := 2, complaint := usage }

end RoundRobin.CommandLine
