import RoundRobin.Proofs.Resumption.Hearing
import RoundRobin.Proofs.Search
import RoundRobin.Proofs.Solo

namespace RoundRobin

/-!
# Collections neither lose nor repeat nor reorder

However often a collection is resumed, it has gone through one hearing after the
other and is at most amid a further one. That holds across failures and panics and
past its completion. So it pulls one item at a time, and the lists that it
completes with are together the items that were accepted, in order.
-/

namespace Source

/-- What the pull after so many others gives is what there is at the place they lead to. -/
theorem nth?_eq_pull
    (items : Source α)
    (place : items.State)
    (pulls : Nat) :
    items.nth? place pulls =
      (items.pull
        ((fun place => (items.pull place).1)^[pulls] place)).2 := by
  induction pulls generalizing place with
  | zero => rfl
  | succ pulls inductionHypothesis =>
      exact inductionHypothesis (items.pull place).1

end Source

namespace Hearing

/-- What a collection gives that goes through the hearings, given what it holds first. -/
def resultsAll :
    List α →
    List (Hearing α ε) →
    List (Guarded (Outcome (List α) ε))
  | _, [] => []
  | earlier, hearing :: rest =>
      hearing.results earlier ++ resultsAll (hearing.held earlier) rest

theorem resultsAll_concat
    (earlier : List α)
    (hearings : List (Hearing α ε))
    (last : Hearing α ε) :
    resultsAll earlier (hearings ++ [last]) =
      resultsAll earlier hearings ++
        last.results (hearings.foldl held earlier) := by
  induction hearings generalizing earlier with
  | nil => exact List.append_nil _
  | cons hearing rest inductionHypothesis =>
      simp only [List.cons_append, resultsAll, inductionHypothesis,
        List.append_assoc, List.foldl_cons]

/-- A judge hands nothing out. -/
theorem completedValue?_passedOn (verdict : Verdict ε) :
    completedValue?
        (verdict.passedOn : Guarded (Outcome (List α) ε)) =
      none := by
  cases verdict with
  | reached => rfl
  | failed => rfl
  | panicked => rfl

/--
What was held is handed out or is held still, and the item of the hearing comes
after it if it is accepted.
-/
theorem completedValues_results
    (earlier : List α)
    (hearing : Hearing α ε) :
    ((hearing.results earlier).filterMap completedValue?).flatten ++
        hearing.held earlier =
      earlier ++ hearing.accepted?.toList := by
  cases hearing with
  | noItem => exact List.append_nil _
  | noJudge item panic => exact (List.append_nil _).symm
  | judged item suspensions verdict =>
      have nothing :
          ((judged item suspensions verdict).results earlier).filterMap
              completedValue? =
            [] := by
        rw [results, List.filterMap_append,
          List.filterMap_replicate_of_none rfl, List.filterMap_cons,
          completedValue?_passedOn]
        rfl
      rw [nothing]
      rfl

/-- So it is with one hearing after the other. -/
theorem completedValues_resultsAll
    (earlier : List α)
    (hearings : List (Hearing α ε)) :
    ((resultsAll earlier hearings).filterMap completedValue?).flatten ++
        hearings.foldl held earlier =
      earlier ++ hearings.filterMap accepted? := by
  induction hearings generalizing earlier with
  | nil => exact (List.append_nil earlier).symm
  | cons hearing rest inductionHypothesis =>
      rw [resultsAll, List.filterMap_append, List.flatten_append,
        List.append_assoc, List.foldl_cons, inductionHypothesis,
        ← List.append_assoc, completedValues_results, List.append_assoc]
      congr 1
      cases accepted : hearing.accepted? with
      | none => simp [accepted]
      | some item => simp [accepted]

end Hearing

/-- An item with the verdict that its judge reaches and how often it suspends before. -/
structure Decision (α : Type) where
  item : α
  suspensions : Nat
  accepts : Bool

namespace Decision

/-- The hearing in which the decision is taken. -/
def hearing (decision : Decision α) : Hearing α ε :=
  .judged decision.item decision.suspensions (.reached decision.accepts)

/-- How many resumptions the decisions take. -/
def turns (decisions : List (Decision α)) : Nat :=
  (decisions.map fun decision => decision.suspensions + 1).sum

/-- The items that are accepted. -/
def acceptedItems (decisions : List (Decision α)) : List α :=
  (decisions.filter fun decision => decision.accepts).map fun decision =>
    decision.item

/-- While decisions are taken the collection only suspends. -/
theorem resultsAll_hearing
    (earlier : List α)
    (decisions : List (Decision α)) :
    (Hearing.resultsAll earlier (decisions.map hearing) :
        List (Guarded (Outcome (List α) ε))) =
      List.replicate (turns decisions) (.ok .suspended) := by
  induction decisions generalizing earlier with
  | nil => rfl
  | cons decision rest inductionHypothesis =>
      rw [turns, List.map_cons, List.map_cons, List.sum_cons,
        ← List.replicate_append_replicate, List.replicate_succ',
        Hearing.resultsAll, inductionHypothesis]
      rfl

/-- What is held when decisions are taken are the items that were accepted. -/
theorem held_hearing
    (earlier : List α)
    (decisions : List (Decision α)) :
    (decisions.map hearing : List (Hearing α ε)).foldl
        Hearing.held earlier =
      earlier ++ acceptedItems decisions := by
  induction decisions generalizing earlier with
  | nil => exact (List.append_nil earlier).symm
  | cons decision rest inductionHypothesis =>
      rw [List.map_cons, List.foldl_cons, inductionHypothesis]
      obtain ⟨item, suspensions, _ | _⟩ := decision
      · simp [hearing, Hearing.held, Hearing.accepted?, Verdict.accepts,
          acceptedItems]
      · simp [hearing, Hearing.held, Hearing.accepted?, Verdict.accepts,
          acceptedItems]

theorem turns_map
    (given : List α)
    (delay : α → Nat)
    (verdict : α → Bool) :
    turns (given.map fun item => ⟨item, delay item, verdict item⟩) =
      (given.map fun item => delay item + 1).sum := by
  rw [turns, List.map_map]
  rfl

theorem acceptedItems_map
    (given : List α)
    (delay : α → Nat)
    (verdict : α → Bool) :
    acceptedItems (given.map fun item => ⟨item, delay item, verdict item⟩) =
      given.filter verdict := by
  rw [acceptedItems, List.filter_map, List.map_map]
  exact List.map_id _

end Decision

namespace Collection

variable
  {ω : Type v}
  {items : Source α}
  {maker : JudgeMaker κ α ε}

/-- A collection that has not been resumed. -/
def fresh
    (items : Source α)
    (maker : JudgeMaker κ α ε) :
    Collection items maker where
  place := items.state
  memory := maker.state
  pending := none
  accepted := []

/-- One hearing after the other. -/
inductive HearsAll
    (answer : (request : Request κ) → ω → Option (ω × request.Reply)) :
    Collection items maker →
    ω →
    List (Hearing α ε) →
    Collection items maker →
    ω →
    Prop where
  | nil
      (collection : Collection items maker)
      (state : ω) :
      HearsAll answer collection state [] collection state
  | snoc
      {collection collection' collection'' : Collection items maker}
      {hearings : List (Hearing α ε)}
      {hearing : Hearing α ε}
      {state state' state'' : ω}
      (earlier :
        HearsAll answer collection state hearings collection' state')
      (last : collection'.Hears answer state' hearing collection'' state'') :
      HearsAll answer collection state (hearings ++ [hearing])
        collection'' state''

/--
What a collection has done since its last hearing: nothing, or it has pulled an
item and made a judge for it that has done nothing but suspend.
-/
inductive Since
    (answer : (request : Request κ) → ω → Option (ω × request.Reply))
    (settled : Collection items maker)
    (state : ω) :
    Collection items maker →
    ω →
    List (Guarded (Outcome (List α) ε)) →
    Prop where
  | nothing :
      Since answer settled state settled state []
  | suspensions
      {place : items.State}
      {item : α}
      {memory : maker.State}
      {reached : (maker.judge settled.memory item).State}
      {fewer : Nat}
      {state' : ω}
      (pulled : items.pull settled.place = (place, some item))
      (made : maker.call settled.memory item = (memory, none))
      (suspended :
        (maker.judge settled.memory item).resumeTimes
            answer (fewer + 1) state =
          some
            (state',
              { maker.judge settled.memory item with state := reached },
              List.replicate (fewer + 1) (.ok .suspended))) :
      Since answer settled state
        { settled with
          place := place
          memory := memory
          pending := some ⟨settled.memory, item, reached⟩ }
        state'
        (List.replicate (fewer + 1) (.ok .suspended))

namespace HearsAll

variable
  {answer : (request : Request κ) → ω → Option (ω × request.Reply)}
  {collection collection' collection'' : Collection items maker}
  {hearing : Hearing α ε}
  {hearings : List (Hearing α ε)}
  {state state' state'' : ω}

/-- A hearing may also be put in front. -/
theorem cons
    (hears : collection.Hears answer state hearing collection' state')
    (later :
      HearsAll answer collection' state' hearings collection'' state'') :
    HearsAll answer collection state (hearing :: hearings)
      collection'' state'' := by
  induction later with
  | nil => exact .snoc (.nil _ _) hears
  | snoc _ last inductionHypothesis =>
      rw [← List.cons_append]
      exact .snoc (inductionHypothesis hears) last

/-- Hearings leave nothing pending. -/
theorem pending
    (hears :
      HearsAll answer collection state hearings collection' state')
    (free : collection.pending = none) :
    collection'.pending = none := by
  induction hears with
  | nil => exact free
  | snoc _ last inductionHypothesis =>
      exact last.pending inductionHypothesis

/-- Hearings let in those of their own items that are accepted. -/
theorem accepted
    (hears :
      HearsAll answer collection state hearings collection' state') :
    collection'.accepted =
      hearings.foldl Hearing.held collection.accepted := by
  induction hears with
  | nil => rfl
  | snoc _ last inductionHypothesis =>
      rw [List.foldl_append, ← inductionHypothesis]
      exact last.accepted

/-- There is one pull for each hearing. -/
theorem place
    (hears :
      HearsAll answer collection state hearings collection' state') :
    collection'.place =
      (fun place => (items.pull place).1)^[hearings.length]
        collection.place := by
  induction hears with
  | nil => rfl
  | snoc _ last inductionHypothesis =>
      rw [List.length_append, List.length_singleton,
        Function.iterate_succ_apply', ← inductionHypothesis, last.pull]

/-- The hearings are about what the pulls give, in order. -/
theorem pulls
    (hears :
      HearsAll answer collection state hearings collection' state') :
    hearings.map Hearing.item? =
      (List.range hearings.length).map (items.nth? collection.place) := by
  induction hears with
  | nil => rfl
  | snoc earlier last inductionHypothesis =>
      rw [List.length_append, List.length_singleton, List.range_succ,
        List.map_append, List.map_append, inductionHypothesis,
        List.map_singleton, List.map_singleton, Source.nth?_eq_pull,
        ← earlier.place, last.pull]

/-- The maker is called on the items that are pulled, once on each, in order. -/
theorem memory
    (hears :
      HearsAll answer collection state hearings collection' state') :
    collection'.memory =
      (hearings.filterMap Hearing.item?).foldl
        (fun memory item => (maker.call memory item).1)
        collection.memory := by
  induction hears with
  | nil => rfl
  | snoc _ last inductionHypothesis =>
      rw [List.filterMap_append, List.foldl_append, ← inductionHypothesis,
        last.memory, List.filterMap_cons]
      split
      · next nothing =>
          rw [nothing]
          rfl
      · next pulled =>
          rw [pulled]
          rfl

end HearsAll

/-- What a further resumption makes of it: the same goes on, or a hearing is over. -/
inductive Onward
    (answer : (request : Request κ) → ω → Option (ω × request.Reply))
    (settled : Collection items maker)
    (state : ω)
    (since : List (Guarded (Outcome (List α) ε))) :
    ω →
    Coroutine κ (List α) ε →
    Guarded (Outcome (List α) ε) →
    Prop where
  | amid
      {collection : Collection items maker}
      {state' : ω}
      {result : Guarded (Outcome (List α) ε)}
      (goesOn :
        Since answer settled state collection state' (since ++ [result])) :
      Onward answer settled state since
        state' (Coroutine.collecting collection) result
  | ended
      {settled' : Collection items maker}
      {hearing : Hearing α ε}
      {state' : ω}
      {result : Guarded (Outcome (List α) ε)}
      (hears : settled.Hears answer state hearing settled' state')
      (given : since ++ [result] = hearing.results settled.accepted) :
      Onward answer settled state since
        state' (Coroutine.collecting settled') result

section

variable
  {answer : (request : Request κ) → ω → Option (ω × request.Reply)}
  {settled collection : Collection items maker}
  {state middle state' : ω}
  {final : Coroutine κ (List α) ε}
  {result : Guarded (Outcome (List α) ε)}

/-- A judge that has only suspended is resumed; it suspends again or the hearing is over. -/
theorem onward_of_judge
    {place : items.State}
    {item : α}
    {memory : maker.State}
    {reached : (maker.judge settled.memory item).State}
    {suspensions : Nat}
    (pulled : items.pull settled.place = (place, some item))
    (made : maker.call settled.memory item = (memory, none))
    (suspended :
      (maker.judge settled.memory item).resumeTimes
          answer suspensions state =
        some
          (middle,
            { maker.judge settled.memory item with state := reached },
            List.replicate suspensions (.ok .suspended)))
    (advances :
      collection.advance =
        { settled with
          place := place
          memory := memory }.judge ⟨settled.memory, item, reached⟩)
    (resumed :
      (Coroutine.collecting collection).resume.conduct answer middle =
        some (state', final, result)) :
    Onward answer settled state
      (List.replicate suspensions (.ok .suspended)) state' final result := by
  obtain ⟨_, judge, given, judged⟩ :=
    Coroutine.exists_conduct_judging advances resumed
  obtain ⟨reached', rfl, heard⟩ := Coroutine.conduct_of_judge advances judged
  cases heard.symm.trans resumed
  have judgedAll :
      (maker.judge settled.memory item).resumeTimes
          answer (suspensions + 1) state =
        some
          (state', Coroutine.judging ⟨settled.memory, item, reached'⟩,
            List.replicate suspensions (.ok .suspended) ++ [given]) :=
    Coroutine.resumeTimes_concat suspended judged
  obtain rfl | ⟨verdict, rfl⟩ := Verdict.suspended_or_exists given
  · apply Onward.amid
    rw [← List.replicate_succ'] at judgedAll
    rw [Collection.heard, ← List.replicate_succ']
    exact .suspensions pulled made judgedAll
  · rw [heard_verdict _ _ suspensions]
    exact .ended (.judged pulled made judgedAll) rfl

/-- Whatever a collection has done since its last hearing, it goes on from there. -/
theorem Since.onward
    {since : List (Guarded (Outcome (List α) ε))}
    (goesOn : Since answer settled state collection middle since)
    (free : settled.pending = none)
    (resumed :
      (Coroutine.collecting collection).resume.conduct answer middle =
        some (state', final, result)) :
    Onward answer settled state since state' final result := by
  cases goesOn with
  | nothing =>
      rcases pulled : items.pull settled.place with ⟨place, _ | item⟩
      · rw [Coroutine.resume_collecting,
          advance_of_noItem free pulled] at resumed
        cases resumed
        exact .ended (.noItem _ pulled) rfl
      rcases made : maker.call settled.memory item with ⟨memory, _ | panic⟩
      · have unused :
            (maker.judge settled.memory item).resumeTimes answer 0 state =
              some (state, maker.judge settled.memory item, []) :=
          rfl
        exact
          onward_of_judge pulled made unused
            (advance_of_made free pulled made) resumed
      · rw [Coroutine.resume_collecting,
          advance_of_noJudge free pulled made] at resumed
        cases resumed
        exact .ended (.noJudge _ pulled made) rfl
  | suspensions pulled made suspended =>
      exact
        onward_of_judge pulled made suspended
          (advance_of_pending (by exact free) _) resumed

end

/--
A collection that had nothing pending has gone through one hearing after the other
and is at most amid a further one. The induction is on the resumptions, the last of
which begins a hearing, goes on with one or ends it.
-/
theorem exists_hearsAll
    {answer : (request : Request κ) → ω → Option (ω × request.Reply)}
    {initial : Collection items maker}
    {times : Nat}
    {state state' : ω}
    {final : Coroutine κ (List α) ε}
    {results : List (Guarded (Outcome (List α) ε))}
    (free : initial.pending = none)
    (resumed :
      (Coroutine.collecting initial).resumeTimes answer times state =
        some (state', final, results)) :
    ∃ hearings settled middle collection since,
      HearsAll answer initial state hearings settled middle ∧
        Since answer settled middle collection state' since ∧
        final = Coroutine.collecting collection ∧
        results = Hearing.resultsAll initial.accepted hearings ++ since := by
  induction times generalizing state' final results with
  | zero =>
      cases resumed
      exact ⟨[], initial, state, initial, [], .nil _ _, .nothing, rfl, rfl⟩
  | succ times inductionHypothesis =>
      obtain ⟨_, _, _, result, before, last, rfl⟩ :=
        Coroutine.exists_last_of_resumeTimes resumed
      obtain
        ⟨hearings, settled, middle, collection, since, hears, goesOn, rfl,
          rfl⟩ :=
        inductionHypothesis before
      cases goesOn.onward (hears.pending free) last with
      | amid goesOn =>
          exact
            ⟨hearings, settled, middle, _, _, hears, goesOn, rfl,
              List.append_assoc ..⟩
      | @ended settled' hearing _ _ heard given =>
          refine
            ⟨hearings ++ [hearing], settled', state', settled', [],
              .snoc hears heard, .nothing, rfl, ?_⟩
          rw [Hearing.resultsAll_concat, ← hears.accepted, ← given,
            List.append_nil, List.append_assoc]

/-- A collection that has nothing pending goes through any hearings that there are. -/
theorem HearsAll.resumeTimes
    {answer : (request : Request κ) → ω → Option (ω × request.Reply)}
    {initial settled : Collection items maker}
    {hearings : List (Hearing α ε)}
    {state state' : ω}
    (hears : HearsAll answer initial state hearings settled state')
    (free : initial.pending = none) :
    (Coroutine.collecting initial).resumeTimes
        answer (Hearing.resultsAll initial.accepted hearings).length state =
      some
        (state', Coroutine.collecting settled,
          Hearing.resultsAll initial.accepted hearings) := by
  induction hears with
  | nil => rfl
  | snoc earlier last inductionHypothesis =>
      rw [Hearing.resultsAll_concat, ← earlier.accepted, List.length_append]
      exact
        Coroutine.resumeTimes_append inductionHypothesis
          (Coroutine.resumeTimes_of_hears (earlier.pending free) last)

section

variable
  {answer : (request : Request κ) → ω → Option (ω × request.Reply)}
  {initial settled collection : Collection items maker}
  {hearings : List (Hearing α ε)}
  {state middle state' : ω}

/-- Amid a hearing nothing is handed out or let in. -/
theorem Since.completedValues
    {since : List (Guarded (Outcome (List α) ε))}
    (goesOn : Since answer settled middle collection state' since) :
    since.filterMap completedValue? = [] ∧
      collection.accepted = settled.accepted := by
  cases goesOn with
  | nothing => exact ⟨rfl, rfl⟩
  | suspensions => exact ⟨List.filterMap_replicate_of_none rfl, rfl⟩

/-- What has been handed out and what is held are the items that were accepted. -/
theorem HearsAll.completedValues
    {since : List (Guarded (Outcome (List α) ε))}
    (hears : HearsAll answer initial state hearings settled middle)
    (goesOn : Since answer settled middle collection state' since) :
    ((Hearing.resultsAll initial.accepted hearings ++ since).filterMap
            completedValue?).flatten ++
        collection.accepted =
      initial.accepted ++ hearings.filterMap Hearing.accepted? := by
  obtain ⟨nothing, same⟩ := goesOn.completedValues
  rw [List.filterMap_append, nothing, List.append_nil, same, hears.accepted,
    Hearing.completedValues_resultsAll]

variable
  {decisions : List (Decision α)}
  {place : items.State}

/-- Without another item, a collection that has decided on all completes. -/
theorem HearsAll.completes
    (hears :
      HearsAll answer (fresh items maker) state
        (decisions.map Decision.hearing) settled middle)
    (nothing : items.pull settled.place = (place, none)) :
    (Coroutine.collect items maker).resumeTimes
        answer (Decision.turns decisions + 1) state =
      some
        (middle,
          Coroutine.collecting
            { settled with
              place := place
              accepted := [] },
          List.replicate (Decision.turns decisions) (.ok .suspended) ++
            [.ok (.completed (Decision.acceptedItems decisions))]) := by
  have accepted : settled.accepted = Decision.acceptedItems decisions :=
    hears.accepted.trans (Decision.held_hearing [] decisions)
  have heard := (hears.snoc (.noItem middle nothing)).resumeTimes rfl
  rw [Hearing.resultsAll_concat, ← hears.accepted, accepted,
    Decision.resultsAll_hearing, List.length_append,
    List.length_replicate] at heard
  exact heard

/-- The first judge to fail fails the collection. -/
theorem HearsAll.fails
    {after : Collection items maker}
    {item : α}
    {suspensions : Nat}
    {error : ε}
    (hears :
      HearsAll answer (fresh items maker) state
        (decisions.map Decision.hearing) settled middle)
    (failed :
      settled.Hears answer middle (.judged item suspensions (.failed error))
        after state') :
    (Coroutine.collect items maker).resumeTimes
          answer (Decision.turns decisions + suspensions + 1) state =
        some
          (state', Coroutine.collecting after,
            List.replicate (Decision.turns decisions + suspensions)
                (.ok .suspended) ++
              [.ok (.failed error)]) ∧
      after.accepted = Decision.acceptedItems decisions := by
  constructor
  · have heard := (hears.snoc failed).resumeTimes rfl
    rw [Hearing.resultsAll_concat, Decision.resultsAll_hearing,
      Hearing.results, ← List.append_assoc,
      List.replicate_append_replicate, List.length_append,
      List.length_replicate] at heard
    exact heard
  · rw [failed.accepted, hears.accepted]
    exact
      (List.append_nil _).trans (Decision.held_hearing [] decisions)

end

/-- Items that are all decided on in the same way are decided on one by one. -/
theorem exists_hearsAll_of_items
    {answer : (request : Request κ) → ω → Option (ω × request.Reply)}
    {given : List α}
    {delay : α → Nat}
    {verdict : α → Bool}
    (makes :
      ∀ item ∈ given, ∀ memory, (maker.call memory item).2 = none)
    (reaches :
      ∀ item ∈ given,
      ∀ memory state,
      ∃ state' judge,
        (maker.judge memory item).resumeTimes
            answer (delay item + 1) state =
          some
            (state', judge,
              List.replicate (delay item) (.ok .suspended) ++
                [.ok (.completed (verdict item))]))
    (collection : Collection items maker)
    (shows :
      ∀ pulls ≤ given.length,
        items.nth? collection.place pulls = given[pulls]?)
    (state : ω) :
    ∃ settled middle,
      HearsAll answer collection state
          ((given.map fun item =>
              ⟨item, delay item, verdict item⟩).map Decision.hearing)
          settled middle ∧
        (items.pull settled.place).2 = none := by
  induction given generalizing collection state with
  | nil => exact ⟨collection, state, .nil _ _, shows 0 (Nat.le_refl 0)⟩
  | cons item rest inductionHypothesis =>
      have made :
          maker.call collection.memory item =
            ((maker.call collection.memory item).1, none) :=
        Prod.ext rfl (makes item List.mem_cons_self _)
      obtain ⟨state', judge, reached⟩ :=
        reaches item List.mem_cons_self collection.memory state
      obtain ⟨decided, heard, place⟩ :
          ∃ decided,
            collection.Hears answer state
                (Decision.hearing ⟨item, delay item, verdict item⟩)
                decided state' ∧
              decided.place = (items.pull collection.place).1 :=
        ⟨_, .judged (Prod.ext rfl (shows 0 (Nat.zero_le _))) made reached, rfl⟩
      obtain ⟨settled, middle, hears, nothing⟩ :=
        inductionHypothesis
          (fun other member => makes other (List.mem_cons_of_mem _ member))
          (fun other member => reaches other (List.mem_cons_of_mem _ member))
          decided
          (by
            intro pulls within
            rw [place]
            exact shows (pulls + 1) (Nat.succ_le_succ within))
          state'
      exact ⟨settled, middle, hears.cons heard, nothing⟩

/-- A source of finitely many items is filtered by what the judges decide. -/
theorem exists_resumeTimes_filter
    {answer : (request : Request κ) → ω → Option (ω × request.Reply)}
    {given : List α}
    {delay : α → Nat}
    {verdict : α → Bool}
    (shows :
      ∀ pulls ≤ given.length,
        items.nth? items.state pulls = given[pulls]?)
    (makes :
      ∀ item ∈ given, ∀ memory, (maker.call memory item).2 = none)
    (reaches :
      ∀ item ∈ given,
      ∀ memory state,
      ∃ state' judge,
        (maker.judge memory item).resumeTimes
            answer (delay item + 1) state =
          some
            (state', judge,
              List.replicate (delay item) (.ok .suspended) ++
                [.ok (.completed (verdict item))]))
    (state : ω) :
    ∃ state' final,
      (Coroutine.collect items maker).resumeTimes
          answer ((given.map fun item => delay item + 1).sum + 1) state =
        some
          (state', final,
            List.replicate (given.map fun item => delay item + 1).sum
                (.ok .suspended) ++
              [.ok (.completed (given.filter verdict))]) := by
  obtain ⟨settled, middle, hears, nothing⟩ :=
    exists_hearsAll_of_items makes reaches (fresh items maker) shows state
  have completed := hears.completes (Prod.ext rfl nothing)
  rw [Decision.turns_map, Decision.acceptedItems_map] at completed
  exact ⟨_, _, completed⟩

end Collection

/--
Collections judge the items of their sources one by one and lose, repeat and
reorder none. All holds of any source, be it endless or have it items again after it
had none, of any maker, with a memory or with panics, of any judges and in any
surroundings, and past every failure, panic and completion.
-/
structure CollectionsFaithful : Prop where
  /-- Where every request is answered, a collection can be resumed any number of times. -/
  resumed :
    ∀ {κ α ε ω : Type}
      {answer : (request : Request κ) → ω → Option (ω × request.Reply)},
      (∀ request state, (answer request state).isSome) →
      ∀ (items : Source α) (maker : JudgeMaker κ α ε) (times : Nat)
        (state : ω),
      ∃ state' final results,
        (Coroutine.collect items maker).resumeTimes answer times state =
            some (state', final, results) ∧
          results.length = times
  /--
  However often it was resumed, a collection has gone through one hearing after the
  other. Each is one pull of the source, one call of the maker if there is an item, and
  the judge that is made, if one is, resumed until it does not suspend any more. Since
  the last it has done nothing, or has pulled an item, called the maker once and resumed
  the judge once for each resumption of its own, and the judge has only suspended.
  -/
  heard :
    ∀ {κ α ε ω : Type}
      {answer : (request : Request κ) → ω → Option (ω × request.Reply)}
      {items : Source α}
      {maker : JudgeMaker κ α ε}
      {times : Nat}
      {state state' : ω}
      {final : Coroutine κ (List α) ε}
      {results : List (Guarded (Outcome (List α) ε))},
      (Coroutine.collect items maker).resumeTimes answer times state =
        some (state', final, results) →
      ∃ hearings settled middle collection since,
        Collection.HearsAll answer (Collection.fresh items maker) state
            hearings settled middle ∧
          Collection.Since answer settled middle collection state' since ∧
          final = Coroutine.collecting collection ∧
          results = Hearing.resultsAll [] hearings ++ since
  /-- Whatever hearings there are to go through, the resumptions that they take do so. -/
  goesThrough :
    ∀ {κ α ε ω : Type}
      {answer : (request : Request κ) → ω → Option (ω × request.Reply)}
      {items : Source α}
      {maker : JudgeMaker κ α ε}
      {settled : Collection items maker}
      {hearings : List (Hearing α ε)}
      {state state' : ω},
      Collection.HearsAll answer (Collection.fresh items maker) state
        hearings settled state' →
      (Coroutine.collect items maker).resumeTimes
          answer (Hearing.resultsAll [] hearings).length state =
        some
          (state', Coroutine.collecting settled,
            Hearing.resultsAll [] hearings)
  /--
  The hearings are about what the pulls give, in order, one for each pull, and the maker
  is called once on each of the items, in order.
  -/
  pulled :
    ∀ {κ α ε ω : Type}
      {answer : (request : Request κ) → ω → Option (ω × request.Reply)}
      {items : Source α}
      {maker : JudgeMaker κ α ε}
      {settled : Collection items maker}
      {hearings : List (Hearing α ε)}
      {state state' : ω},
      Collection.HearsAll answer (Collection.fresh items maker) state
        hearings settled state' →
      hearings.map Hearing.item? =
          (List.range hearings.length).map (items.nth? items.state) ∧
        settled.place =
          (fun place => (items.pull place).1)^[hearings.length]
            items.state ∧
        settled.memory =
          (hearings.filterMap Hearing.item?).foldl
            (fun memory item => (maker.call memory item).1)
            maker.state
  /--
  The lists that the collection has completed with and what it holds, one after the
  other, are the items whose judges accepted them, in order, each once.
  -/
  lossless :
    ∀ {κ α ε ω : Type}
      {answer : (request : Request κ) → ω → Option (ω × request.Reply)}
      {items : Source α}
      {maker : JudgeMaker κ α ε}
      {settled collection : Collection items maker}
      {hearings : List (Hearing α ε)}
      {since : List (Guarded (Outcome (List α) ε))}
      {state middle state' : ω},
      Collection.HearsAll answer (Collection.fresh items maker) state
        hearings settled middle →
      Collection.Since answer settled middle collection state' since →
      ((Hearing.resultsAll [] hearings ++ since).filterMap
              completedValue?).flatten ++
          collection.accepted =
        hearings.filterMap Hearing.accepted?
  /--
  An item that is not accepted, because its judge rejected it, failed or panicked or
  because it could not be made, is gone. Those accepted before are held on to.
  -/
  dropped :
    ∀ {κ α ε ω : Type}
      {answer : (request : Request κ) → ω → Option (ω × request.Reply)}
      {items : Source α}
      {maker : JudgeMaker κ α ε}
      {collection collection' : Collection items maker}
      {hearing : Hearing α ε}
      {state state' : ω},
      collection.Hears answer state hearing collection' state' →
      collection.pending = none →
      hearing.item?.isSome →
      hearing.accepted? = none →
      collection'.pending = none ∧
        collection'.accepted = collection.accepted
  /--
  If all judges reach a verdict and then there is no item, the collection suspends as
  often as they do altogether and once more for each, and completes with the items that
  they accepted, in order.
  -/
  completes :
    ∀ {κ α ε ω : Type}
      {answer : (request : Request κ) → ω → Option (ω × request.Reply)}
      {items : Source α}
      {maker : JudgeMaker κ α ε}
      {settled : Collection items maker}
      {decisions : List (Decision α)}
      {place : items.State}
      {state state' : ω},
      Collection.HearsAll answer (Collection.fresh items maker) state
        (decisions.map Decision.hearing) settled state' →
      items.pull settled.place = (place, none) →
      (Coroutine.collect items maker).resumeTimes
          answer (Decision.turns decisions + 1) state =
        some
          (state',
            Coroutine.collecting
              { settled with
                place := place
                accepted := [] },
            List.replicate (Decision.turns decisions) (.ok .suspended) ++
              [.ok (.completed (Decision.acceptedItems decisions))])
  /--
  So where the judge of an item suspends and decides as two functions of the item have
  it, the collection completes with what the one filters out, after as many suspensions
  as the other adds up to and one for each item.
  -/
  filters :
    ∀ {κ α ε ω : Type}
      {answer : (request : Request κ) → ω → Option (ω × request.Reply)}
      {items : Source α}
      {maker : JudgeMaker κ α ε}
      {given : List α}
      {delay : α → Nat}
      {verdict : α → Bool},
      (∀ pulls ≤ given.length,
        items.nth? items.state pulls = given[pulls]?) →
      (∀ item ∈ given, ∀ memory, (maker.call memory item).2 = none) →
      (∀ item ∈ given,
        ∀ memory state,
        ∃ state' judge,
          (maker.judge memory item).resumeTimes
              answer (delay item + 1) state =
            some
              (state', judge,
                List.replicate (delay item) (.ok .suspended) ++
                  [.ok (.completed (verdict item))])) →
      ∀ state : ω,
      ∃ state' final,
        (Coroutine.collect items maker).resumeTimes
            answer ((given.map fun item => delay item + 1).sum + 1) state =
          some
            (state', final,
              List.replicate (given.map fun item => delay item + 1).sum
                  (.ok .suspended) ++
                [.ok (.completed (given.filter verdict))])
  /--
  The first judge to fail fails the collection, in that very resumption. It has
  suspended as often as that judge and the judges before did and once more for each of
  these; of its items it holds those that were accepted.
  -/
  fails :
    ∀ {κ α ε ω : Type}
      {answer : (request : Request κ) → ω → Option (ω × request.Reply)}
      {items : Source α}
      {maker : JudgeMaker κ α ε}
      {settled after : Collection items maker}
      {decisions : List (Decision α)}
      {item : α}
      {suspensions : Nat}
      {error : ε}
      {state middle state' : ω},
      Collection.HearsAll answer (Collection.fresh items maker) state
        (decisions.map Decision.hearing) settled middle →
      settled.Hears answer middle (.judged item suspensions (.failed error))
        after state' →
      (Coroutine.collect items maker).resumeTimes
            answer (Decision.turns decisions + suspensions + 1) state =
          some
            (state', Coroutine.collecting after,
              List.replicate (Decision.turns decisions + suspensions)
                  (.ok .suspended) ++
                [.ok (.failed error)]) ∧
        after.accepted = Decision.acceptedItems decisions

/-- Collections neither lose items nor repeat or reorder them. -/
theorem collections_faithful : CollectionsFaithful where
  resumed := by
    intro κ α ε ω answer answers items maker times state
    obtain ⟨⟨state', final, results⟩, resumed⟩ :=
      Option.isSome_iff_exists.mp
        (Coroutine.resumeTimes_isSome answers times
          (Coroutine.collect items maker) state)
    exact
      ⟨state', final, results, resumed,
        (Coroutine.reaches_of_resumeTimes resumed).2⟩
  heard := Collection.exists_hearsAll rfl
  goesThrough := fun hears => hears.resumeTimes rfl
  pulled := fun hears => ⟨hears.pulls, hears.place, hears.memory⟩
  lossless := fun hears goesOn => hears.completedValues goesOn
  dropped := fun hears free pulled refused =>
    ⟨hears.pending free, hears.accepted_of_refused pulled refused⟩
  completes := Collection.HearsAll.completes
  filters := Collection.exists_resumeTimes_filter
  fails := Collection.HearsAll.fails

/-- Makes no judge for zero, one that fails for one, and else such as accept in time. -/
def choosy : JudgeMaker Unit Nat TaskError where
  State := Unit
  state := ()
  call := fun _ item =>
    ((), if item = 0 then some { message := "no judge for 0" } else none)
  judge := fun _ item =>
    if item = 1 then .ofStep Unit () fun _ => ((), .ok (.failed .notFound))
    else .suspendThen (item - 2) true

/-- The collection goes on past a failure, past a panic and past its completion. -/
theorem collections_faithful_past_failure :
    ∃ remaining,
      (Coroutine.collect
          (.ofPulls [some 4, some 1, some 0, some 2, none, some 3])
          choosy).resumeTimes
          (fun _ (_ : Unit) => none) 9 () =
        some
          ((), remaining,
            [.ok .suspended, .ok .suspended, .ok .suspended,
              .ok (.failed .notFound),
              .error { message := "no judge for 0" },
              .ok .suspended,
              .ok (.completed [4, 2]),
              .ok .suspended, .ok .suspended]) := by
  obtain ⟨settled, heard⟩ :
      ∃ settled,
        Collection.HearsAll
          (fun _ (_ : Unit) => none)
          (Collection.fresh
            (.ofPulls [some 4, some 1, some 0, some 2, none, some 3])
            choosy)
          ()
          [.judged 4 2 (.reached true),
            .judged 1 0 (.failed .notFound),
            .noJudge 0 { message := "no judge for 0" },
            .judged 2 0 (.reached true),
            .noItem,
            .judged 3 1 (.reached true)]
          settled () :=
    ⟨_,
      .cons (.judged rfl rfl rfl)
        (.cons (.judged rfl rfl rfl)
          (.cons (.noJudge _ rfl rfl)
            (.cons (.judged rfl rfl rfl)
              (.cons (.noItem _ rfl)
                (.cons (.judged rfl rfl rfl) (.nil _ _))))))⟩
  exact ⟨_, collections_faithful.goesThrough heard⟩

end RoundRobin
