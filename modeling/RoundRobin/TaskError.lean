namespace RoundRobin

/-!
# How a task can fail

A task fails because its search ran out of items, because it broke the rules
for suspending, or with a message of its own. A coroutine that may break the
rules can have other failures too, if a breach can be turned into one of them.
-/

/-- A breach of the rules that a coroutine follows towards its driver. -/
inductive ProtocolViolation where
  /-- A suspension carried a payload, described by the text. -/
  | nonEmptySuspension (payload : String)
  /-- The coroutine was resumed after it had completed or failed. -/
  | resumedAfterTermination
  deriving DecidableEq, Repr

/-- The wording of a violation. -/
def ProtocolViolation.message : ProtocolViolation → String
  | nonEmptySuspension payload =>
      "suspension carried a payload: " ++ payload
  | resumedAfterTermination =>
      "resumed after termination"

/-- Failures into which a breach of the rules can be turned. -/
class OfViolation (ε : Type) where
  ofViolation : ProtocolViolation → ε

/-- The failure of a task. -/
inductive TaskError where
  /-- A search ran out of items without a match. -/
  | notFound
  /-- The task's coroutine broke the rules for suspending. -/
  | protocol (violation : ProtocolViolation)
  /-- The task gave up with a message of its own. -/
  | raised (message : String)
  deriving DecidableEq, Repr

namespace TaskError

instance : OfViolation TaskError where
  ofViolation := protocol

/-- The wording of a failure. -/
def message : TaskError → String
  | notFound => "Not found"
  | protocol violation => "protocol violation: " ++ violation.message
  | raised text => text

/-- Whether the failure is a breach of the rules rather than an ordinary error. -/
def isProtocolViolation : TaskError → Bool
  | protocol _ => true
  | _ => false

end TaskError

end RoundRobin
