namespace RoundRobin

/-!
# Outcomes of a resumption

Resuming a coroutine ends in exactly one `Outcome`: it gave up control, it
completed with a value, or it failed with an error. Completion and failure are
terminal. A resumption that panics has no outcome at all, so the result of a
resumption is an `Outcome` under `Guarded`.
-/

/-- The message of a panic that interrupted a computation. -/
structure Panic where
  message : String
  deriving DecidableEq, Repr

/-- A computation that either returns a value or panics. -/
abbrev Guarded (α : Type u) : Type u :=
  Except Panic α

/-- What one resumption of a coroutine ended in. -/
inductive Outcome (α ε : Type) where
  /-- Control was given up; the coroutine can be resumed again. -/
  | suspended
  | completed (value : α)
  | failed (error : ε)
  deriving DecidableEq, Repr

namespace Outcome

/-- Whether the outcome ends its coroutine. -/
def isTerminal : Outcome α ε → Bool
  | suspended => false
  | completed _ => true
  | failed _ => true

/-- Transform the value of a completion. -/
def map
    (transform : α → β) :
    Outcome α ε →
    Outcome β ε
  | suspended => suspended
  | completed value => completed (transform value)
  | failed error => failed error

/-- Transform the error of a failure. -/
def mapError
    (transform : ε → φ) :
    Outcome α ε →
    Outcome α φ
  | suspended => suspended
  | completed value => completed value
  | failed error => failed (transform error)

/-- Transforming a value never turns an ending into a suspension or back. -/
@[simp] theorem isTerminal_map
    (transform : α → β)
    (outcome : Outcome α ε) :
    (outcome.map transform).isTerminal = outcome.isTerminal := by
  cases outcome <;> rfl

/-- Transforming an error never turns an ending into a suspension or back. -/
@[simp] theorem isTerminal_mapError
    (transform : ε → φ)
    (outcome : Outcome α ε) :
    (outcome.mapError transform).isTerminal = outcome.isTerminal := by
  cases outcome <;> rfl

end Outcome

end RoundRobin
