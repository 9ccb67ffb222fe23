import RoundRobin.CommandLine.Run

/-!
# The program

The arguments, the environment and the files of settings are read, and what the
program comes to is written.
-/

open RoundRobin

/-- What reading the file at a path gives. -/
def fetchFile (path : String) : IO Fetched := do
  let opened ← (IO.FS.Handle.mk path .read).toBaseIO
  match opened with
  | .error (.permissionDenied ..) => return .unreadable
  | .error _ => return .missing
  | .ok file =>
      match ← file.readToEnd.toBaseIO with
      | .ok content => return .text content
      | .error _ => return .unreadable

/-- The file of settings that a request leads to, as far as it was read. -/
def fetchSettings
    (environment : Environment)
    (arguments : List String) :
    IO Fetched :=
  match CommandLine.Request.parse? arguments with
  | some (.run _ options) =>
      match environment.origin options.settingsFile with
      | .required path => fetchFile path
      | .optional path => fetchFile path
      | .nowhere => pure .missing
  | _ => pure .missing

/-- Run the program. -/
def main (arguments : List String) : IO UInt32 := do
  let environment ← Environment.ofVariables fun name => IO.getEnv name
  let settings ← fetchSettings environment arguments
  let ending := CommandLine.run environment (fun _ => settings) arguments
  IO.print ending.output
  IO.eprint ending.complaint
  return ending.code.toUInt32
