import RoundRobin.Coroutine.Basic
import RoundRobin.Source

namespace RoundRobin

/-!
# Collecting the items that a coroutine accepts

`collect` pulls one item after the other and has each judged by a coroutine
made for it. The judge's suspensions are passed on, and after each verdict the
collector suspends once. It completes with the accepted items when the source
has no item, and fails when a judge fails. An item whose judge failed or
panicked, or could not be made, is dropped.
-/

/--
A maker of judges, with a memory. A call may panic but makes no requests; the
judge that it returns may.
-/
structure JudgeMaker (κ α ε : Type) where
  State : Type
  state : State
  /-- One call: what is remembered afterwards, and the panic if there was one. -/
  call : State → α → State × Option Panic
  /-- The judge that a call returns which does not panic. -/
  judge : State → α → Coroutine κ Bool ε

/-- The maker without a memory that never panics. -/
def JudgeMaker.ofFunction
    (judge : α → Coroutine κ Bool ε) :
    JudgeMaker κ α ε where
  State := Unit
  state := ()
  call := fun _ _ => ((), none)
  judge := fun _ item => judge item

/-- An item under judgement and the state of its judge. -/
structure Pending (maker : JudgeMaker κ α ε) where
  /-- What the maker remembered when it made the judge. -/
  memory : maker.State
  item : α
  judge : (maker.judge memory item).State

/-- Where a collection stands. -/
structure Collection
    (items : Source α)
    (maker : JudgeMaker κ α ε) where
  place : items.State
  memory : maker.State
  pending : Option (Pending maker)
  accepted : List α

namespace Collection

/-- Let the judge of an item go on, in a collection that has the item set aside. -/
def judge
    {items : Source α}
    {maker : JudgeMaker κ α ε}
    (collection : Collection items maker)
    (pending : Pending maker) :
    Activity κ (Collection items maker × Guarded (Outcome (List α) ε)) :=
  ((maker.judge pending.memory pending.item).advance pending.judge).map
    fun (judge, result) =>
      match result with
      | .error panic => (collection, .error panic)
      | .ok .suspended =>
          ({ collection with pending := some { pending with judge := judge } },
            .ok .suspended)
      | .ok (.completed true) =>
          ({ collection with accepted := collection.accepted ++ [pending.item] },
            .ok .suspended)
      | .ok (.completed false) => (collection, .ok .suspended)
      | .ok (.failed error) => (collection, .ok (.failed error))

/-- One resumption: let the pending judge go on, or pull an item and make its judge. -/
def advance
    {items : Source α}
    {maker : JudgeMaker κ α ε}
    (collection : Collection items maker) :
    Activity κ (Collection items maker × Guarded (Outcome (List α) ε)) :=
  match collection.pending with
  | some pending => { collection with pending := none }.judge pending
  | none =>
      match items.pull collection.place with
      | (place, none) =>
          .done
            ({ collection with place := place, accepted := [] },
              .ok (.completed collection.accepted))
      | (place, some item) =>
          match maker.call collection.memory item with
          | (memory, some panic) =>
              .done
                ({ collection with place := place, memory := memory },
                  .error panic)
          | (memory, none) =>
              { collection with place := place, memory := memory }.judge
                { memory := collection.memory
                  item := item
                  judge := (maker.judge collection.memory item).state }

end Collection

/-- Collect the items of a source that the judges made for them accept. -/
def Coroutine.collect
    (items : Source α)
    (maker : JudgeMaker κ α ε) :
    Coroutine κ (List α) ε where
  State := Collection items maker
  state :=
    { place := items.state
      memory := maker.state
      pending := none
      accepted := [] }
  advance := Collection.advance

end RoundRobin
