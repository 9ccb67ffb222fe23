import RoundRobin.Proofs.Collect
import RoundRobin.Proofs.Combinators.Calls
import RoundRobin.Proofs.Resumption.Basic

namespace RoundRobin

/-!
# What becomes of an item

A collection pulls an item and has it heard before it pulls again. The hearing
takes as many resumptions of the collection as the judge that is made for the item
takes to come to its result; where there is no item, or no judge can be made, it
takes one. What a hearing gives and leaves behind is told here by what the source,
the maker and the judge do, and a collection is seen to go through it.
-/

/-- What a judge comes to that does not suspend any more. -/
inductive Verdict (ε : Type) where
  | reached (accepts : Bool)
  | failed (error : ε)
  | panicked (panic : Panic)

namespace Verdict

/-- The result with which the judge ends. -/
def result : Verdict ε → Guarded (Outcome Bool ε)
  | reached accepts => .ok (.completed accepts)
  | failed error => .ok (.failed error)
  | panicked panic => .error panic

/-- What the collection gives in the resumption in which the judge ends. -/
def passedOn : Verdict ε → Guarded (Outcome (List α) ε)
  | reached _ => .ok .suspended
  | failed error => .ok (.failed error)
  | panicked panic => .error panic

/-- Whether the item is accepted. -/
def accepts : Verdict ε → Bool
  | reached accepts => accepts
  | failed _ => false
  | panicked _ => false

/-- A judge suspends or it ends. -/
theorem suspended_or_exists (result : Guarded (Outcome Bool ε)) :
    result = .ok .suspended ∨
      ∃ verdict : Verdict ε, result = verdict.result := by
  rcases result with panic | _ | accepts | error
  · exact .inr ⟨.panicked panic, rfl⟩
  · exact .inl rfl
  · exact .inr ⟨.reached accepts, rfl⟩
  · exact .inr ⟨.failed error, rfl⟩

end Verdict

/-- What comes of one pull. -/
inductive Hearing (α ε : Type) where
  /-- There was no item. -/
  | noItem
  /-- The maker panicked, so there was no judge. -/
  | noJudge (item : α) (panic : Panic)
  /-- The judge suspended so often and then ended. -/
  | judged (item : α) (suspensions : Nat) (verdict : Verdict ε)

namespace Hearing

/-- The item that was pulled. -/
def item? : Hearing α ε → Option α
  | noItem => none
  | noJudge item _ => some item
  | judged item _ _ => some item

/-- The item that was pulled, if it was accepted. -/
def accepted? : Hearing α ε → Option α
  | noItem => none
  | noJudge _ _ => none
  | judged item _ verdict => if verdict.accepts then some item else none

/-- What a collection gives that goes through the hearing, given what it holds. -/
def results (held : List α) : Hearing α ε → List (Guarded (Outcome (List α) ε))
  | noItem => [.ok (.completed held)]
  | noJudge _ panic => [.error panic]
  | judged _ suspensions verdict =>
      List.replicate suspensions (.ok .suspended) ++ [verdict.passedOn]

/-- What a collection holds when it has gone through the hearing. -/
def held (earlier : List α) : Hearing α ε → List α
  | noItem => []
  | noJudge _ _ => earlier
  | judged item suspensions verdict =>
      earlier ++ (judged item suspensions verdict).accepted?.toList

end Hearing

namespace Collection

variable
  {ω : Type v}
  {items : Source α}
  {maker : JudgeMaker κ α ε}

/--
One pull of the source, one call of the maker if there is an item, and as many
resumptions of the judge, if there is one, as it takes to come to its result.
-/
inductive Hears
    (answer : (request : Request κ) → ω → Option (ω × request.Reply)) :
    Collection items maker →
    ω →
    Hearing α ε →
    Collection items maker →
    ω →
    Prop where
  | noItem
      {collection : Collection items maker}
      {place : items.State}
      (state : ω)
      (pulled : items.pull collection.place = (place, none)) :
      Hears answer collection state .noItem
        { collection with
          place := place
          accepted := [] }
        state
  | noJudge
      {collection : Collection items maker}
      {place : items.State}
      {item : α}
      {memory : maker.State}
      {panic : Panic}
      (state : ω)
      (pulled : items.pull collection.place = (place, some item))
      (refused :
        maker.call collection.memory item = (memory, some panic)) :
      Hears answer collection state (.noJudge item panic)
        { collection with
          place := place
          memory := memory }
        state
  | judged
      {collection : Collection items maker}
      {place : items.State}
      {item : α}
      {memory : maker.State}
      {suspensions : Nat}
      {verdict : Verdict ε}
      {state state' : ω}
      {judge : Coroutine κ Bool ε}
      (pulled : items.pull collection.place = (place, some item))
      (made : maker.call collection.memory item = (memory, none))
      (ended :
        (maker.judge collection.memory item).resumeTimes
            answer (suspensions + 1) state =
          some
            (state', judge,
              List.replicate suspensions (.ok .suspended) ++
                [verdict.result])) :
      Hears answer collection state (.judged item suspensions verdict)
        { collection with
          place := place
          memory := memory
          accepted :=
            (Hearing.judged item suspensions verdict).held
              collection.accepted }
        state'

namespace Hears

variable
  {answer : (request : Request κ) → ω → Option (ω × request.Reply)}
  {collection collection' : Collection items maker}
  {hearing : Hearing α ε}
  {state state' : ω}

/-- A hearing leaves nothing pending. -/
theorem pending
    (hears : collection.Hears answer state hearing collection' state')
    (free : collection.pending = none) :
    collection'.pending = none := by
  cases hears with
  | noItem => exact free
  | noJudge => exact free
  | judged => exact free

/-- A hearing is about what a single pull gives. -/
theorem pull
    (hears : collection.Hears answer state hearing collection' state') :
    items.pull collection.place = (collection'.place, hearing.item?) := by
  cases hears with
  | noItem _ pulled => exact pulled
  | noJudge _ pulled _ => exact pulled
  | judged pulled _ _ => exact pulled

/-- In a hearing the maker is called on the item, if there is one, and not again. -/
theorem memory
    (hears : collection.Hears answer state hearing collection' state') :
    collection'.memory =
      hearing.item?.toList.foldl
        (fun memory item => (maker.call memory item).1)
        collection.memory := by
  cases hears with
  | noItem => rfl
  | noJudge _ _ refused => exact (congrArg Prod.fst refused).symm
  | judged _ made _ => exact (congrArg Prod.fst made).symm

/-- A hearing lets at most its own item in. -/
theorem accepted
    (hears : collection.Hears answer state hearing collection' state') :
    collection'.accepted = hearing.held collection.accepted := by
  cases hears with
  | noItem => rfl
  | noJudge => rfl
  | judged => rfl

/-- An item that is not accepted leaves what is held as it was. -/
theorem accepted_of_refused
    (hears : collection.Hears answer state hearing collection' state')
    (pulled : hearing.item?.isSome)
    (refused : hearing.accepted? = none) :
    collection'.accepted = collection.accepted := by
  rw [hears.accepted]
  cases hearing with
  | noItem => cases pulled
  | noJudge => rfl
  | judged =>
      rw [Hearing.held, refused]
      exact List.append_nil _

end Hears

/-- The collection and what it gives when the judge of a pending item gives a result. -/
def heard
    (collection : Collection items maker)
    (pending : Pending maker) :
    Guarded (Outcome Bool ε) →
    Collection items maker × Guarded (Outcome (List α) ε)
  | .error panic => (collection, .error panic)
  | .ok .suspended =>
      ({ collection with pending := some pending }, .ok .suspended)
  | .ok (.completed true) =>
      ({ collection with accepted := collection.accepted ++ [pending.item] },
        .ok .suspended)
  | .ok (.completed false) => (collection, .ok .suspended)
  | .ok (.failed error) => (collection, .ok (.failed error))

/-- A verdict settles the matter. -/
theorem heard_verdict
    (collection : Collection items maker)
    (pending : Pending maker)
    (suspensions : Nat)
    (verdict : Verdict ε) :
    collection.heard pending verdict.result =
      ({ collection with
          accepted :=
            (Hearing.judged pending.item suspensions verdict).held
              collection.accepted },
        verdict.passedOn) := by
  rcases verdict with (_ | _) | error | panic
  · simp [heard, Verdict.result, Verdict.passedOn, Hearing.held,
      Hearing.accepted?, Verdict.accepts]
  · rfl
  · simp [heard, Verdict.result, Verdict.passedOn, Hearing.held,
      Hearing.accepted?, Verdict.accepts]
  · simp [heard, Verdict.result, Verdict.passedOn, Hearing.held,
      Hearing.accepted?, Verdict.accepts]

end Collection

namespace Coroutine

section

variable
  {ω : Type v}
  {answer : (request : Request κ) → ω → Option (ω × request.Reply)}
  {items : Source α}
  {maker : JudgeMaker κ α ε}
  {before collection : Collection items maker}
  {pending : Pending maker}
  {state state' : ω}

/-- The judge of a pending item is resumed as any coroutine is. -/
theorem conduct_judging (pending : Pending maker) (state : ω) :
    (judging pending).resume.conduct answer state =
      (((maker.judge pending.memory pending.item).advance
            pending.judge).conduct answer state).map
        fun (state', reached, result) =>
          (state', judging { pending with judge := reached }, result) :=
  Activity.conduct_map ..

/-- The judge is resumed in a resumption of the collection, which takes up its result. -/
theorem conduct_collecting
    (advances : before.advance = collection.judge pending)
    (state : ω) :
    (collecting before).resume.conduct answer state =
      (((maker.judge pending.memory pending.item).advance
            pending.judge).conduct answer state).map
        fun (state', reached, result) =>
          (state',
            collecting
              (collection.heard { pending with judge := reached } result).1,
            (collection.heard { pending with judge := reached } result).2) := by
  rw [resume_collecting, advances, Collection.judge, Activity.map_map,
    Activity.conduct_map]
  rfl

/-- As the judge is resumed, so is the collection. -/
theorem conduct_of_judge
    {judge : Coroutine κ Bool ε}
    {result : Guarded (Outcome Bool ε)}
    (advances : before.advance = collection.judge pending)
    (resumed :
      (judging pending).resume.conduct answer state =
        some (state', judge, result)) :
    ∃ reached,
      judge = judging { pending with judge := reached } ∧
        (collecting before).resume.conduct answer state =
          some
            (state',
              collecting
                (collection.heard { pending with judge := reached } result).1,
              (collection.heard { pending with judge := reached } result).2) := by
  rw [conduct_judging, Option.map_eq_some_iff] at resumed
  obtain ⟨⟨_, reached, _⟩, conducted, same⟩ := resumed
  cases same
  refine ⟨reached, rfl, ?_⟩
  rw [conduct_collecting advances, conducted]
  rfl

/-- As the collection is resumed, so was the judge. -/
theorem exists_conduct_judging
    {collected :
      ω × Coroutine κ (List α) ε × Guarded (Outcome (List α) ε)}
    (advances : before.advance = collection.judge pending)
    (resumed :
      (collecting before).resume.conduct answer state = some collected) :
    ∃ state' judge result,
      (judging pending).resume.conduct answer state =
        some (state', judge, result) := by
  rw [conduct_collecting advances, Option.map_eq_some_iff] at resumed
  obtain ⟨_, conducted, -⟩ := resumed
  rw [conduct_judging, conducted]
  exact ⟨_, _, _, rfl⟩

/--
While the judge suspends the collection suspends with it, and it takes up what
comes then. The induction is on the suspensions: the judge that suspended is the
pending one of the collection that goes on.
-/
theorem resumeTimes_of_judge
    {judge : Coroutine κ Bool ε}
    {result : Guarded (Outcome Bool ε)}
    {suspensions : Nat}
    (free : collection.pending = none)
    (advances : before.advance = collection.judge pending)
    (resumed :
      (judging pending).resumeTimes answer (suspensions + 1) state =
        some
          (state', judge,
            List.replicate suspensions (.ok .suspended) ++ [result])) :
    ∃ reached,
      judge = judging { pending with judge := reached } ∧
        (collecting before).resumeTimes answer (suspensions + 1) state =
          some
            (state',
              collecting
                (collection.heard { pending with judge := reached } result).1,
              List.replicate suspensions (.ok .suspended) ++
                [(collection.heard
                    { pending with judge := reached } result).2]) := by
  induction suspensions generalizing before pending state with
  | zero =>
      rw [resumeTimes_one, Option.map_eq_some_iff] at resumed
      obtain ⟨_, conducted, same⟩ := resumed
      cases same
      obtain ⟨reached, same, conducted⟩ := conduct_of_judge advances conducted
      refine ⟨reached, same, ?_⟩
      rw [resumeTimes_one, conducted]
      rfl
  | succ fewer inductionHypothesis =>
      obtain ⟨middle, _, _, _, suspended, later, same⟩ :=
        exists_first_of_resumeTimes resumed
      rw [List.replicate_succ, List.cons_append] at same
      cases same
      obtain ⟨aside, rfl, first⟩ := conduct_of_judge advances suspended
      obtain ⟨reached, same, others⟩ :=
        inductionHypothesis (Collection.advance_of_pending free _) later
      exact ⟨reached, same, resumeTimes_cons first others⟩

/-- A collection that has nothing pending goes through a hearing. -/
theorem resumeTimes_of_hears
    {collection collection' : Collection items maker}
    {hearing : Hearing α ε}
    (free : collection.pending = none)
    (hears : collection.Hears answer state hearing collection' state') :
    (collecting collection).resumeTimes
        answer (hearing.results collection.accepted).length state =
      some
        (state', collecting collection',
          hearing.results collection.accepted) := by
  cases hears with
  | noItem _ pulled =>
      simp only [Hearing.results, List.length_singleton, resumeTimes_one,
        resume_collecting, Collection.advance_of_noItem free pulled]
      rfl
  | noJudge _ pulled refused =>
      simp only [Hearing.results, List.length_singleton, resumeTimes_one,
        resume_collecting, Collection.advance_of_noJudge free pulled refused]
      rfl
  | judged pulled made ended =>
      obtain ⟨reached, -, heard⟩ :=
        resumeTimes_of_judge (by exact free)
          (Collection.advance_of_made free pulled made) ended
      rw [Collection.heard_verdict] at heard
      simpa only [Hearing.results, List.length_append, List.length_replicate,
        List.length_singleton] using heard

end

end Coroutine

end RoundRobin
