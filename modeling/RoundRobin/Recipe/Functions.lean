import RoundRobin.Coroutine.Collect
import RoundRobin.Coroutine.PrimeTest
import RoundRobin.Coroutine.Routine
import RoundRobin.Number.Digits
import RoundRobin.Value

namespace RoundRobin

/-!
# Functions that recipes name

A recipe names the functions it needs as data: tests of numbers, makers of
judges, and transformations of values and of errors. Each is given its meaning
here as a procedure. Arithmetic on values is modulo `wordBound`.
-/

/-- A test of a number. -/
inductive NumberTest where
  | digitsAtLeast (n : Nat)
  | above (n : Nat)
  | below (n : Nat)
  | equalTo (n : Nat)
  | remainder (modulus n : Nat)
  | always
  | never
  /-- Panics at the given number and fails at every other. -/
  | panicAt (n : Nat)
  deriving DecidableEq, Repr

/-- Whether a number passes a test. -/
def NumberTest.run
    (test : NumberTest)
    (item : Nat) :
    Guarded Bool :=
  match test with
  | digitsAtLeast n => .ok (n ≤ digitCount item)
  | above n => .ok (n < item)
  | below n => .ok (item < n)
  | equalTo n => .ok (item = n)
  | remainder 0 _ =>
      .error
        { message :=
            "attempt to calculate the remainder with a divisor of zero" }
  | remainder modulus n => .ok (item % modulus = n)
  | always => .ok true
  | never => .ok false
  | panicAt n =>
      if item = n then
        .error { message := "predicate panicked at " ++ item.repr }
      else
        .ok false

/-- A test as a procedure. -/
def NumberTest.procedure (test : NumberTest) : Procedure Nat Bool :=
  Procedure.ofGuarded test.run

/-- How the judge of a number behaves. -/
inductive JudgeKind where
  | prime
  /-- It gives its verdict at once. -/
  | immediate
  /-- It suspends a number of times before its verdict. -/
  | delayed (times : Nat)
  /-- It suspends as often as the remainder by the bound says. -/
  | delayedByRemainder (bound : Nat)
  /-- It fails for one number after suspending a number of times. -/
  | failingAt (n times : Nat) (error : TaskError)
  /-- It cannot be made for one number. -/
  | refusedAt (n times : Nat)
  /-- It panics for one number after suspending a number of times. -/
  | panickingAt (n times : Nat)
  deriving DecidableEq, Repr

/-- A description of judges: how they behave and the test behind their verdict. -/
structure JudgeRecipe where
  kind : JudgeKind
  test : NumberTest
  deriving DecidableEq, Repr

namespace JudgeRecipe

/-- Suspend a number of times, and then answer with a result at every resumption. -/
def suspendBefore
    (times : Nat)
    (result : Guarded (Outcome Bool TaskError)) :
    Coroutine κ Bool TaskError :=
  Coroutine.ofStep Nat times fun left =>
    match left with
    | 0 => (0, result)
    | fewer + 1 => (fewer, .ok .suspended)

/-- The panic of a test run for a verdict, if it panics. -/
def refusalOfTest
    (recipe : JudgeRecipe)
    (item : Nat) :
    Option Panic :=
  match recipe.test.run item with
  | .ok _ => none
  | .error panic => some panic

/-- The panic with which making the judge of a number fails, if it does. -/
def refusal
    (recipe : JudgeRecipe)
    (item : Nat) :
    Option Panic :=
  match recipe.kind with
  | .prime => none
  | .immediate => recipe.refusalOfTest item
  | .delayed _ => recipe.refusalOfTest item
  | .delayedByRemainder _ => recipe.refusalOfTest item
  | .failingAt n _ _ =>
      if item = n then none else recipe.refusalOfTest item
  | .refusedAt n _ =>
      if item = n then
        some { message := "factory panicked at " ++ item.repr }
      else
        recipe.refusalOfTest item
  | .panickingAt n _ =>
      if item = n then none else recipe.refusalOfTest item

/-- The verdict of the test; a test that panics has none, and the judge is not made. -/
def verdict
    (recipe : JudgeRecipe)
    (item : Nat) :
    Bool :=
  match recipe.test.run item with
  | .ok accepted => accepted
  | .error _ => false

/-- The judge of a number. -/
def judge
    (recipe : JudgeRecipe)
    (item : Nat) :
    Coroutine κ Bool TaskError :=
  match recipe.kind with
  | .prime => .isPrime item
  | .immediate => suspendBefore 0 (.ok (.completed (recipe.verdict item)))
  | .delayed times => .suspendThen times (recipe.verdict item)
  | .delayedByRemainder bound =>
      .suspendThen (item % (bound + 1)) (recipe.verdict item)
  | .failingAt n times error =>
      if item = n then suspendBefore times (.ok (.failed error))
      else .suspendThen times (recipe.verdict item)
  | .refusedAt _ times => .suspendThen times (recipe.verdict item)
  | .panickingAt n times =>
      if item = n then
        suspendBefore times
          (.error { message := "predicate coroutine panicked" })
      else
        .suspendThen times (recipe.verdict item)

/-- The maker of the described judges. -/
def maker (recipe : JudgeRecipe) : JudgeMaker κ Nat TaskError where
  State := Unit
  state := ()
  call := fun _ item => ((), recipe.refusal item)
  judge := fun _ item => recipe.judge item

end JudgeRecipe

/-- A transformation of values. -/
inductive ValueTransform where
  | add (n : Nat)
  | multiply (n : Nat)
  /-- Make a number a list of one. -/
  | toList
  | length
  | sum
  /-- Count the calls. -/
  | callCount
  | panic
  deriving DecidableEq, Repr

namespace ValueTransform

/-- Apply a function to each number of a value, modulo `wordBound`. -/
def onNumbers
    (function : Nat → Nat) :
    Value →
    Value
  | .number n => .number (function n % wordBound)
  | .list items => .list (items.map fun n => function n % wordBound)

/-- One call of a transformation, given how many were made before. -/
def call
    (transform : ValueTransform)
    (callsBefore : Nat)
    (value : Value) :
    Guarded Value :=
  match transform with
  | add n => .ok (onNumbers (· + n) value)
  | multiply n => .ok (onNumbers (· * n) value)
  | toList =>
      match value with
      | .number n => .ok (.list [n])
      | .list items => .ok (.list items)
  | length =>
      match value with
      | .number n => .ok (.number (digitCount n))
      | .list items => .ok (.number items.length)
  | sum =>
      match value with
      | .number n => .ok (.number n)
      | .list items => .ok (.number (items.foldl (· + ·) 0 % wordBound))
  | callCount => .ok (.number (callsBefore + 1))
  | panic => .error { message := "map panicked" }

/-- A transformation as a procedure that counts its calls. -/
def procedure (transform : ValueTransform) : Procedure Value Value where
  State := Nat
  state := 0
  call := fun callsBefore value =>
    (callsBefore + 1, transform.call callsBefore value)

end ValueTransform

/-- A transformation of errors. -/
inductive ErrorTransform where
  /-- Put a text before the message. -/
  | prepend (text : String)
  | replace (error : TaskError)
  | panic
  deriving DecidableEq, Repr

/-- One call of a transformation of errors. -/
def ErrorTransform.call
    (transform : ErrorTransform)
    (error : TaskError) :
    Guarded TaskError :=
  match transform with
  | prepend text => .ok (.raised (text ++ error.message))
  | replace replacement => .ok replacement
  | panic => .error { message := "map_err panicked" }

/-- A transformation of errors as a procedure. -/
def ErrorTransform.procedure
    (transform : ErrorTransform) :
    Procedure TaskError TaskError :=
  Procedure.ofGuarded transform.call

end RoundRobin
