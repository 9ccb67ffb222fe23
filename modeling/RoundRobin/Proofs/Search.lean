import RoundRobin.Coroutine.Combinators
import RoundRobin.Coroutine.Search
import RoundRobin.Proofs.Schedule.Lasting

namespace RoundRobin

/-!
# Searches that find something

A search spends a resumption on each item. So it suspends once for every item
that the predicate rejects before it accepts one, and completes with that one.
Transforming what a coroutine completes with changes neither how often it
suspends nor that it keeps to itself.
-/

namespace Activity

/-- What becomes of the results makes no difference to what is asked. -/
theorem AsksOnly.map
    {allowed : Request κ → Prop}
    {activity : Activity κ ρ}
    (asks : activity.AsksOnly allowed)
    (transform : ρ → τ) :
    (activity.map transform).AsksOnly allowed := by
  induction asks with
  | done result => exact .done (transform result)
  | ask asked _ inductionHypothesis =>
      exact .ask asked inductionHypothesis

end Activity

/-- What the pull from a place after so many others gives. -/
def Source.nth?
    (items : Source α)
    (place : items.State) :
    Nat →
    Option α
  | 0 => (items.pull place).2
  | pulls + 1 => items.nth? (items.pull place).1 pulls

/-- What a search gives in the resumption in which an item is tested. -/
def finding
    (item : α)
    (verdict : Guarded Bool) :
    Guarded (Outcome α TaskError) :=
  verdict.map fun accepted =>
    if accepted then .completed item else .suspended

namespace Coroutine

/-- A transformed coroutine is resumed by resuming the coroutine itself. -/
theorem resume_map_ofFunction
    (coroutine : Coroutine κ α ε)
    (transform : α → β) :
    (coroutine.map (.ofFunction transform)).resume =
      coroutine.resume.map fun (coroutine', result) =>
        (coroutine'.map (.ofFunction transform),
          result.map (Outcome.map transform)) := by
  unfold resume
  rw [Activity.map_map, map, Activity.map_map]
  congr 1
  funext ended
  rcases ended with ⟨state, panic | _ | value | error⟩
  all_goals rfl

/-- Transforming what it completes with leaves a coroutine quiet. -/
theorem Quiet.map
    {fate : Outcome α ε → Prop}
    {suspensions : Nat}
    {coroutine : Coroutine κ α ε}
    (quiet : coroutine.Quiet fate suspensions)
    (transform : α → β) :
    (coroutine.map (.ofFunction transform)).Quiet
      (fun outcome =>
        ∃ inner, fate inner ∧ outcome = inner.map transform)
      suspensions := by
  induction suspensions generalizing coroutine with
  | zero =>
      obtain ⟨passive, ending⟩ := quiet
      refine ⟨?_, ?_⟩
      · rw [resume_map_ofFunction]
        exact passive.map _
      · intro ended ends
        rw [resume_map_ofFunction, Activity.ends_map] at ends
        obtain ⟨inner, innerEnds, rfl⟩ := ends
        obtain ⟨outcome, gave, terminal, fated⟩ := ending inner innerEnds
        refine
          ⟨outcome.map transform, ?_, ?_, outcome, fated, rfl⟩
        · simp [gave, Except.map]
        · rw [Outcome.isTerminal_map]
          exact terminal
  | succ fewer inductionHypothesis =>
      obtain ⟨passive, ending⟩ := quiet
      refine ⟨?_, ?_⟩
      · rw [resume_map_ofFunction]
        exact passive.map _
      · intro ended ends
        rw [resume_map_ofFunction, Activity.ends_map] at ends
        obtain ⟨inner, innerEnds, rfl⟩ := ends
        obtain ⟨suspended, later⟩ := ending inner innerEnds
        refine ⟨?_, inductionHypothesis later⟩
        simp [suspended, Except.map, Outcome.map]

/-- A search that has come to a place among its items. -/
def searchFrom
    (items : Source α)
    (test : α → Guarded Bool)
    (place : items.State) :
    Coroutine κ α TaskError :=
  { search items (.ofGuarded test) with state := (place, ()) }

section

variable
  {items : Source α}
  {test : α → Guarded Bool}
  {place after : items.State}
  {item : α}

/-- An item that is pulled is tested. -/
theorem advance_search_of_item
    (pulled : items.pull place = (after, some item))
    (predicate : Procedure α Bool)
    (memory : predicate.State) :
    (search items predicate : Coroutine κ α TaskError).advance
        (place, memory) =
      .done
        ((after, (predicate.call memory item).1),
          finding item (predicate.call memory item).2) := by
  simp only [search, ofStep, pulled]
  rcases predicate.call memory item with ⟨learnt, panic | _ | _⟩
  · rfl
  · rfl
  · rfl

/-- Where there is no item the predicate is not called. -/
theorem advance_search_of_none
    (pulled : items.pull place = (after, none))
    (predicate : Procedure α Bool)
    (memory : predicate.State) :
    (search items predicate : Coroutine κ α TaskError).advance
        (place, memory) =
      .done ((after, memory), .ok (.failed .notFound)) := by
  simp only [search, ofStep, pulled]

/-- A search without a memory goes on with the next item, whatever became of this one. -/
theorem resume_searchFrom_of_item
    (pulled : items.pull place = (after, some item)) :
    (searchFrom items test place : Coroutine κ α TaskError).resume =
      .done (searchFrom items test after, finding item (test item)) := by
  unfold resume searchFrom
  exact
    congrArg (Activity.map _)
      (advance_search_of_item pulled (.ofGuarded test) ())

/-- A search suspends at every item before the first match. -/
theorem quiet_searchFrom
    {misses : Nat}
    (missed :
      ∀ pulls < misses,
        ∃ other,
          items.nth? place pulls = some other ∧ test other = .ok false)
    (found : items.nth? place misses = some item)
    (hit : test item = .ok true) :
    Quiet (fun outcome => outcome = .completed item) misses
      (searchFrom items test place : Coroutine κ α TaskError) := by
  induction misses generalizing place with
  | zero =>
      unfold Quiet
      rw [resume_searchFrom_of_item (Prod.ext rfl found), hit]
      refine ⟨.done _, ?_⟩
      intro ended ends
      rw [Activity.ends_done.mp ends]
      exact ⟨.completed item, rfl, rfl, rfl⟩
  | succ fewer inductionHypothesis =>
      obtain ⟨other, next, rejected⟩ := missed 0 (Nat.zero_lt_succ _)
      have later :
          Quiet (fun outcome => outcome = .completed item) fewer
            (searchFrom items test (items.pull place).1 :
              Coroutine κ α TaskError) := by
        apply inductionHypothesis _ found
        intro pulls before
        exact missed (pulls + 1) (Nat.succ_lt_succ before)
      unfold Quiet
      rw [resume_searchFrom_of_item (Prod.ext rfl next), rejected]
      refine ⟨.done _, ?_⟩
      intro ended ends
      rw [Activity.ends_done.mp ends]
      exact ⟨rfl, later⟩

end

end Coroutine

end RoundRobin
