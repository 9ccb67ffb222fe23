import RoundRobin.Proofs.Combinators.Calls
import RoundRobin.Proofs.Resumption.Basic
import RoundRobin.Proofs.Search

namespace RoundRobin

/-!
# Searches find what there is to be found

Every resumption of a search is one pull. An item that is pulled is tested once,
and completes the search if it is accepted; a search that is resumed after that,
or after a test that panicked, goes on with the next item. So its completions are
the accepted items, in order, and the first failure comes when there is no item.
-/

/--
Pulled once for each of the items, the source yields them in order; then it is as
given last.
-/
inductive Source.Yields : Source α → List α → Source α → Prop where
  | nil
      (items : Source α) :
      Yields items [] items
  | cons
      {items final : Source α}
      {place : items.State}
      {item : α}
      {rest : List α}
      (pulled : items.pull items.state = (place, some item))
      (later : Yields { items with state := place } rest final) :
      Yields items (item :: rest) final

/-- What calls on one argument after the other give. -/
def Procedure.givesAll :
    Procedure α β →
    List α →
    List (Guarded β)
  | _, [] => []
  | procedure, argument :: rest =>
      procedure.gives argument :: (procedure.called argument).givesAll rest

/-- The arguments that a predicate accepts when it is called on one after the other. -/
def Procedure.accepted :
    Procedure α Bool →
    List α →
    List α
  | _, [] => []
  | predicate, item :: rest =>
      match predicate.gives item with
      | .ok true => item :: (predicate.called item).accepted rest
      | _ => (predicate.called item).accepted rest

namespace Coroutine

section

variable
  {items : Source α}
  {place after : items.State}
  {item : α}

/-- How a search goes on does not depend on where it stood at the start. -/
theorem search_at
    (items : Source α)
    (predicate : Procedure α Bool)
    (place : items.State)
    (memory : predicate.State) :
    (search { items with state := place }
          { predicate with state := memory } :
        Coroutine κ α TaskError) =
      { search items predicate with state := (place, memory) } := by
  suffices goesOn :
      (search { items with state := place }
            { predicate with state := memory } :
          Coroutine κ α TaskError).advance =
        (search items predicate).advance from
    congrArg (Coroutine.mk _ _) goesOn
  funext ⟨place, memory⟩
  rcases pulled : items.pull place with ⟨after, _ | item⟩
  · exact
      (advance_search_of_none (by exact pulled) _ memory).trans
        (advance_search_of_none pulled predicate memory).symm
  · exact
      (advance_search_of_item (by exact pulled) _ memory).trans
        (advance_search_of_item pulled predicate memory).symm

theorem resume_search_of_item
    (pulled : items.pull items.state = (place, some item))
    (predicate : Procedure α Bool) :
    (search items predicate : Coroutine κ α TaskError).resume =
      .done
        (search { items with state := place } (predicate.called item),
          finding item (predicate.gives item)) := by
  have moved :
      (search { items with state := place } (predicate.called item) :
          Coroutine κ α TaskError) =
        { search items predicate with
          state := (place, (predicate.call predicate.state item).1) } :=
    search_at items predicate place _
  change
    ((search items predicate).advance
        (items.state, predicate.state)).map _ = _
  rw [advance_search_of_item pulled, moved]
  rfl

theorem resume_search_of_none
    (pulled : items.pull items.state = (place, none))
    (predicate : Procedure α Bool) :
    (search items predicate : Coroutine κ α TaskError).resume =
      .done
        (search { items with state := place } predicate,
          .ok (.failed .notFound)) := by
  have moved :
      (search { items with state := place } predicate :
          Coroutine κ α TaskError) =
        { search items predicate with
          state := (place, predicate.state) } :=
    search_at items predicate place predicate.state
  change
    ((search items predicate).advance
        (items.state, predicate.state)).map _ = _
  rw [advance_search_of_none pulled, moved]
  rfl

end

end Coroutine

section

variable
  {given missed : List α}
  {predicate : Procedure α Bool}

theorem completedValue?_finding (item : α) (verdict : Guarded Bool) :
    completedValue? (finding item verdict) =
      match verdict with
      | .ok true => some item
      | _ => none := by
  rcases verdict with panic | _ | _
  · rfl
  · rfl
  · rfl

theorem failedError?_finding (item : α) (verdict : Guarded Bool) :
    failedError? (finding item verdict) = none := by
  rcases verdict with panic | _ | _
  · rfl
  · rfl
  · rfl

/-- What the items that are tested complete a search with are those that are accepted. -/
theorem completedValues_finding
    (predicate : Procedure α Bool)
    (given : List α) :
    (List.zipWith finding given (predicate.givesAll given)).filterMap
        completedValue? =
      predicate.accepted given := by
  induction given generalizing predicate with
  | nil => rfl
  | cons item rest inductionHypothesis =>
      simp only [Procedure.givesAll, Procedure.accepted,
        List.zipWith_cons_cons, List.filterMap_cons,
        completedValue?_finding, inductionHypothesis]
      rcases predicate.gives item with panic | _ | _
      · rfl
      · rfl
      · rfl

/-- No item fails a search. -/
theorem failedErrors_finding
    (predicate : Procedure α Bool)
    (given : List α) :
    (List.zipWith finding given (predicate.givesAll given)).filterMap
        failedError? =
      [] := by
  induction given generalizing predicate with
  | nil => rfl
  | cons item rest inductionHypothesis =>
      rw [Procedure.givesAll, List.zipWith_cons_cons, List.filterMap_cons,
        failedError?_finding]
      exact inductionHypothesis (predicate.called item)

/-- Items that are rejected are passed over one by one. -/
theorem zipWith_finding_rejected (missed : List α) :
    List.zipWith finding missed
        (List.replicate missed.length (.ok false)) =
      List.replicate missed.length (.ok .suspended) := by
  induction missed with
  | nil => rfl
  | cons item rest inductionHypothesis =>
      rw [List.length_cons, List.replicate_succ, List.zipWith_cons_cons,
        inductionHypothesis]
      rfl

/-- Without a memory and without panics, a predicate accepts what its function does. -/
theorem Procedure.accepted_ofFunction
    (function : α → Bool)
    (given : List α) :
    (Procedure.ofFunction function).accepted given =
      given.filter function := by
  induction given with
  | nil => rfl
  | cons item rest inductionHypothesis =>
      have gives :
          (ofFunction function).gives item = .ok (function item) :=
        rfl
      have called :
          (ofFunction function).called item = ofFunction function :=
        rfl
      rw [List.filter_cons, ← inductionHypothesis, accepted, gives, called]
      cases function item with
      | true => rfl
      | false => rfl

end

namespace Coroutine

variable
  {ω : Type v}
  {answer : (request : Request κ) → ω → Option (ω × request.Reply)}
  {items items' : Source α}
  {given missed : List α}

/-- A search is resumed once for each item, and the predicate is called once on each. -/
theorem resumeTimes_search
    (yields : items.Yields given items')
    (predicate : Procedure α Bool)
    (state : ω) :
    (search items predicate).resumeTimes answer given.length state =
      some
        (state, search items' (predicate.calledOn given),
          List.zipWith finding given (predicate.givesAll given)) := by
  induction yields generalizing predicate with
  | nil => rfl
  | cons pulled later inductionHypothesis =>
      simp only [List.length_cons, resumeTimes,
        resume_search_of_item pulled, Activity.conduct,
        inductionHypothesis]
      rfl

/-- The first resumption in which there is no item fails. -/
theorem resumeTimes_search_of_none
    {place : items'.State}
    (yields : items.Yields given items')
    (nothing : items'.pull items'.state = (place, none))
    (predicate : Procedure α Bool)
    (state : ω) :
    (search items predicate).resumeTimes answer (given.length + 1) state =
      some
        (state,
          search { items' with state := place } (predicate.calledOn given),
          List.zipWith finding given (predicate.givesAll given) ++
            [.ok (.failed .notFound)]) := by
  apply resumeTimes_concat (resumeTimes_search yields predicate state)
  rw [resume_search_of_none nothing]
  rfl

/-- The first item that is accepted completes the search; nothing behind it is pulled. -/
theorem resumeTimes_search_of_first
    {item : α}
    {predicate : Procedure α Bool}
    (yields : items.Yields (missed ++ [item]) items')
    (first :
      predicate.givesAll (missed ++ [item]) =
        List.replicate missed.length (.ok false) ++ [.ok true])
    (state : ω) :
    (search items predicate).resumeTimes
        answer (missed.length + 1) state =
      some
        (state, search items' (predicate.calledOn (missed ++ [item])),
          List.replicate missed.length (.ok .suspended) ++
            [.ok (.completed item)]) := by
  have searched : (search items predicate).resumeTimes answer _ state = _ :=
    resumeTimes_search yields predicate state
  rw [first, List.zipWith_append (by rw [List.length_replicate]),
    zipWith_finding_rejected, List.length_append] at searched
  exact searched

/-- If none of its items is accepted, a search suspends at each and then fails. -/
theorem resumeTimes_search_of_missing
    {place : items'.State}
    {predicate : Procedure α Bool}
    (yields : items.Yields given items')
    (nothing : items'.pull items'.state = (place, none))
    (rejected :
      predicate.givesAll given =
        List.replicate given.length (.ok false))
    (state : ω) :
    (search items predicate).resumeTimes answer (given.length + 1) state =
      some
        (state,
          search { items' with state := place } (predicate.calledOn given),
          List.replicate given.length (.ok .suspended) ++
            [.ok (.failed .notFound)]) := by
  have searched :
      (search items predicate).resumeTimes
          answer (given.length + 1) state = _ :=
    resumeTimes_search_of_none yields nothing predicate state
  rw [rejected, zipWith_finding_rejected] at searched
  exact searched

end Coroutine

/--
Searches find what their sources yield and their predicates accept, each item
once and in order. All holds of any source, be it endless or have it items again
after it had none, of any predicate, with a memory or with panics, and in any
surroundings.
-/
structure SearchesFaithful : Prop where
  /--
  As long as the source has items, each resumption pulls one and calls the
  predicate once, on that item. An item that is accepted completes the search, at
  one that is rejected it suspends, and if the predicate panics the item is used
  up: whatever became of it, the next resumption goes on with the next.
  -/
  goesOn :
    ∀ {κ α ω : Type}
      {answer : (request : Request κ) → ω → Option (ω × request.Reply)}
      {items items' : Source α}
      {given : List α},
      items.Yields given items' →
      ∀ (predicate : Procedure α Bool) (state : ω),
        (Coroutine.search items predicate).resumeTimes
            answer given.length state =
          some
            (state, Coroutine.search items' (predicate.calledOn given),
              List.zipWith finding given (predicate.givesAll given))
  /--
  So the values of these completions are the items that the predicate accepts,
  in order, each once, and none of these resumptions fails.
  -/
  completions :
    ∀ {α : Type} (predicate : Procedure α Bool) (given : List α),
      (List.zipWith finding given (predicate.givesAll given)).filterMap
            completedValue? =
          predicate.accepted given ∧
        (List.zipWith finding given (predicate.givesAll given)).filterMap
            failedError? =
          []
  /-- Of a predicate that is a function these are the items that it filters out. -/
  filtered :
    ∀ {α : Type} (function : α → Bool) (given : List α),
      (Procedure.ofFunction function).accepted given =
        given.filter function
  /-- The first failure comes when there is no item; the predicate is not called. -/
  exhausted :
    ∀ {κ α ω : Type}
      {answer : (request : Request κ) → ω → Option (ω × request.Reply)}
      {items items' : Source α}
      {place : items'.State}
      {given : List α},
      items.Yields given items' →
      items'.pull items'.state = (place, none) →
      ∀ (predicate : Procedure α Bool) (state : ω),
        (Coroutine.search items predicate).resumeTimes
            answer (given.length + 1) state =
          some
            (state,
              Coroutine.search { items' with state := place }
                (predicate.calledOn given),
              List.zipWith finding given (predicate.givesAll given) ++
                [.ok (.failed .notFound)])
  /--
  If an item is accepted and all before it are rejected, the search suspends at
  each of those and completes with the item. It has pulled them and the item, and
  the predicate has been called once on each, in order.
  -/
  first :
    ∀ {κ α ω : Type}
      {answer : (request : Request κ) → ω → Option (ω × request.Reply)}
      {items items' : Source α}
      {missed : List α}
      {item : α}
      {predicate : Procedure α Bool},
      items.Yields (missed ++ [item]) items' →
      predicate.givesAll (missed ++ [item]) =
        List.replicate missed.length (.ok false) ++ [.ok true] →
      ∀ state : ω,
        (Coroutine.search items predicate).resumeTimes
            answer (missed.length + 1) state =
          some
            (state,
              Coroutine.search items' (predicate.calledOn (missed ++ [item])),
              List.replicate missed.length (.ok .suspended) ++
                [.ok (.completed item)])
  /-- If all items are rejected, the search suspends at each and then fails. -/
  missing :
    ∀ {κ α ω : Type}
      {answer : (request : Request κ) → ω → Option (ω × request.Reply)}
      {items items' : Source α}
      {place : items'.State}
      {given : List α}
      {predicate : Procedure α Bool},
      items.Yields given items' →
      items'.pull items'.state = (place, none) →
      predicate.givesAll given = List.replicate given.length (.ok false) →
      ∀ state : ω,
        (Coroutine.search items predicate).resumeTimes
            answer (given.length + 1) state =
          some
            (state,
              Coroutine.search { items' with state := place }
                (predicate.calledOn given),
              List.replicate given.length (.ok .suspended) ++
                [.ok (.failed .notFound)])

/-- Searches neither miss an item nor find one twice. -/
theorem searches_faithful : SearchesFaithful where
  goesOn := Coroutine.resumeTimes_search
  completions := fun predicate given =>
    ⟨completedValues_finding predicate given,
      failedErrors_finding predicate given⟩
  filtered := Procedure.accepted_ofFunction
  exhausted := Coroutine.resumeTimes_search_of_none
  first := Coroutine.resumeTimes_search_of_first
  missing := Coroutine.resumeTimes_search_of_missing

/-- An odd item, one on which the predicate panics and an even one, then none for once. -/
theorem searches_faithful_past_panic :
    ∃ remaining,
      (Coroutine.search
            (.ofPulls [some 1, some 3, some 8, none, some 6])
            (.ofGuarded fun item =>
              if item = 3 then
                .error { message := "predicate panicked at 3" }
              else .ok (item % 2 = 0)) :
          Coroutine Unit Nat TaskError).resumeTimes
          (fun _ (_ : Unit) => none) 4 () =
        some
          ((), remaining,
            [.ok .suspended,
              .error { message := "predicate panicked at 3" },
              .ok (.completed 8),
              .ok (.failed .notFound)]) := by
  have yields :
      (Source.ofPulls [some 1, some 3, some 8, none, some 6]).Yields
        [1, 3, 8]
        { Source.ofPulls [some 1, some 3, some 8, none, some 6] with
          state := [none, some 6] } :=
    .cons rfl (.cons rfl (.cons rfl (.nil _)))
  exact ⟨_, searches_faithful.exhausted yields rfl _ ()⟩

end RoundRobin
