import RoundRobin.Activity
import RoundRobin.CommandLine.Options
import RoundRobin.CommandLine.Request
import RoundRobin.CommandLine.Run
import RoundRobin.Coroutine.Basic
import RoundRobin.Coroutine.Collect
import RoundRobin.Coroutine.Combinators
import RoundRobin.Coroutine.PrimeTest
import RoundRobin.Coroutine.Routine
import RoundRobin.Coroutine.Search
import RoundRobin.Coroutine.Sleep
import RoundRobin.Coroutine.Snapshot
import RoundRobin.Coroutine.Solo
import RoundRobin.Datum
import RoundRobin.Files.Path
import RoundRobin.Files.Tree
import RoundRobin.Json.Basic
import RoundRobin.Ledger
import RoundRobin.Log.Entry
import RoundRobin.Log.Level
import RoundRobin.Main
import RoundRobin.Number.Digits
import RoundRobin.Number.Lucas
import RoundRobin.Number.SquareRoot
import RoundRobin.Outcome
import RoundRobin.Payload
import RoundRobin.Proofs.Activity
import RoundRobin.Proofs.Run.Basic
import RoundRobin.Proofs.World
import RoundRobin.Queue
import RoundRobin.Recipe.Basic
import RoundRobin.Recipe.Functions
import RoundRobin.Recipe.Script
import RoundRobin.Report.Basic
import RoundRobin.Report.Json
import RoundRobin.Report.Text
import RoundRobin.Ron.Attribute
import RoundRobin.Ron.Blank
import RoundRobin.Ron.Lookahead
import RoundRobin.Ron.Name
import RoundRobin.Ron.Number
import RoundRobin.Ron.Plain
import RoundRobin.Ron.Quotation
import RoundRobin.Ron.Range
import RoundRobin.Ron.Reader
import RoundRobin.Ron.Tree
import RoundRobin.Scheduler.Basic
import RoundRobin.Scheduler.Lookup
import RoundRobin.Settings.Basic
import RoundRobin.Settings.File
import RoundRobin.Settings.Notation
import RoundRobin.Source
import RoundRobin.Task.Basic
import RoundRobin.Task.Id
import RoundRobin.TaskError
import RoundRobin.Text.Hidden
import RoundRobin.Text.Identifier
import RoundRobin.Text.Quoted
import RoundRobin.Value
import RoundRobin.Workload
import RoundRobin.World.Basic
import RoundRobin.World.Drive
import RoundRobin.Proofs.Run.Life
import RoundRobin.Proofs.Run.Conduct
import RoundRobin.Proofs.Partition
import RoundRobin.Proofs.Run.History
import RoundRobin.Proofs.Solo
import RoundRobin.Proofs.Isolation
import RoundRobin.Proofs.Pass
import RoundRobin.Proofs.Schedule.ClosedForm
import RoundRobin.Proofs.Bookkeeping
import RoundRobin.Proofs.Run.Draining
import RoundRobin.Proofs.Spawning
import RoundRobin.Proofs.Unwinding
import RoundRobin.Proofs.Alike
import RoundRobin.Proofs.Watched
import RoundRobin.Proofs.Likeness.World
import RoundRobin.Proofs.Likeness.Run
import RoundRobin.Proofs.Finality
import RoundRobin.Proofs.DrainFlag
import RoundRobin.Proofs.Lookup
import RoundRobin.Proofs.Forest.Behaviour
import RoundRobin.Proofs.Forest.Behaving
import RoundRobin.Proofs.Forest.Drain
import RoundRobin.Proofs.Forest.Endless
import RoundRobin.Proofs.Forest.Termination
import RoundRobin.Proofs.Lucas
import RoundRobin.Proofs.Search
import RoundRobin.Proofs.Workload.Report
import RoundRobin.Proofs.Workload.Run
import RoundRobin.Proofs.Workload.Search
import RoundRobin.Proofs.Report
import RoundRobin.Proofs.PrimeTest
import RoundRobin.Proofs.Collect
import RoundRobin.Proofs.Workload.Primes
import RoundRobin.Proofs.Log.Faithful
import RoundRobin.Proofs.Log.Solitary
import RoundRobin.Proofs.Log.Trace
import RoundRobin.Proofs.Configuration.Drive
import RoundRobin.Proofs.Configuration.Program
import RoundRobin.Proofs.Configuration.Run
import RoundRobin.Proofs.Combinators.Calls
import RoundRobin.Proofs.Combinators.Equivalence
import RoundRobin.Proofs.Combinators.Chain
import RoundRobin.Proofs.Combinators.Laws
import RoundRobin.Proofs.Files
import RoundRobin.Proofs.Files.Path
import RoundRobin.Proofs.Json.Grammar
import RoundRobin.Proofs.Json.Pretty
import RoundRobin.Proofs.Json.Reader
import RoundRobin.Proofs.Json.Report
import RoundRobin.Proofs.Ron.Blank
import RoundRobin.Proofs.Ron.Number
import RoundRobin.Proofs.Ron.Plain
import RoundRobin.Proofs.Ron.Reader
import RoundRobin.Proofs.Settings.Excerpt
import RoundRobin.Proofs.Settings.RoundTrip
import RoundRobin.Proofs.Resumption.Basic
import RoundRobin.Proofs.Resumption.Routine
import RoundRobin.Proofs.Resumption.PrimeTest
import RoundRobin.Proofs.Resumption.Search
import RoundRobin.Proofs.Resumption.Hearing
import RoundRobin.Proofs.Resumption.Collection
import RoundRobin.Proofs.Resumption.Loop
import RoundRobin.Proofs.Resumption.Repetition
import RoundRobin.Proofs.Colour
import RoundRobin.Proofs.Ledger
import RoundRobin.Proofs.Digits
