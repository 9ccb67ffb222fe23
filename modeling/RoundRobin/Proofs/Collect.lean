import Mathlib.Algebra.GroupWithZero.Nat
import RoundRobin.Coroutine.Collect
import RoundRobin.Proofs.Search

namespace RoundRobin

/-!
# Collections that come to their end

A collection passes on the suspensions of the judge that is at work and adds one
for each verdict. If all judges can be made and are quiet, the collection is
quiet as well: it suspends as often as the judges do altogether and once more
for each item, and completes with the items that were accepted, in order.
-/

/-- A transformed activity makes the requests that the activity itself makes. -/
theorem Activity.AsksOnly.of_map
    {allowed : Request κ → Prop}
    {activity : Activity κ ρ}
    {transform : ρ → τ}
    (asks : (activity.map transform).AsksOnly allowed) :
    activity.AsksOnly allowed := by
  induction activity with
  | done result => exact .done result
  | ask request next inductionHypothesis =>
      cases asks with
      | ask asked later =>
          exact .ask asked fun reply => inductionHypothesis reply (later reply)

namespace Collection

variable
  {items : Source α}
  {maker : JudgeMaker κ α ε}
  {collection : Collection items maker}
  {place : items.State}
  {item : α}
  {memory : maker.State}

/-- A judge that was set aside is taken up again. -/
theorem advance_of_pending
    (free : collection.pending = none)
    (pending : Pending maker) :
    ({ collection with pending := some pending } :
        Collection items maker).advance =
      collection.judge pending := by
  obtain ⟨place, memory, _, accepted⟩ := collection
  cases free
  rfl

/-- Where there is no item the collection hands out what it holds. -/
theorem advance_of_noItem
    (free : collection.pending = none)
    (pulled : items.pull collection.place = (place, none)) :
    collection.advance =
      .done
        ({ collection with
            place := place
            accepted := [] },
          .ok (.completed collection.accepted)) := by
  simp only [advance, free, pulled]

/-- An item for which no judge can be made is gone. -/
theorem advance_of_noJudge
    {panic : Panic}
    (free : collection.pending = none)
    (pulled : items.pull collection.place = (place, some item))
    (refused :
      maker.call collection.memory item = (memory, some panic)) :
    collection.advance =
      .done
        ({ collection with
            place := place
            memory := memory },
          .error panic) := by
  simp only [advance, free, pulled, refused]

/-- The judge that is made for an item goes to work at once. -/
theorem advance_of_made
    (free : collection.pending = none)
    (pulled : items.pull collection.place = (place, some item))
    (made : maker.call collection.memory item = (memory, none)) :
    collection.advance =
      { collection with
        place := place
        memory := memory }.judge
        { memory := collection.memory
          item := item
          judge := (maker.judge collection.memory item).state } := by
  simp only [advance, free, pulled, made]

end Collection

namespace Coroutine

/-- A collection that has come to any point. -/
def collecting
    {items : Source α}
    {maker : JudgeMaker κ α ε}
    (collection : Collection items maker) :
    Coroutine κ (List α) ε :=
  { collect items maker with state := collection }

/-- The judge of an item that is under judgement. -/
def judging
    {maker : JudgeMaker κ α ε}
    (pending : Pending maker) :
    Coroutine κ Bool ε :=
  { maker.judge pending.memory pending.item with state := pending.judge }

section

variable
  {items : Source α}
  {maker : JudgeMaker κ α ε}
  {collection : Collection items maker}
  {pending : Pending maker}

theorem resume_collecting (collection : Collection items maker) :
    (collecting collection).resume =
      collection.advance.map fun (collection', result) =>
        (collecting collection', result) :=
  rfl

/-- In a resumption that a judge is at work in, only the judge makes requests. -/
theorem asksOnly_of_judge
    {allowed : Request κ → Prop}
    {before : Collection items maker}
    (advances : before.advance = collection.judge pending)
    (asks : (judging pending).resume.AsksOnly allowed) :
    (collecting before).resume.AsksOnly allowed := by
  rw [resume_collecting, advances]
  exact (asks.of_map.map _).map _

/-- A resumption that a judge is at work in suspends with it, and at its verdict. -/
theorem ends_of_judge
    {before : Collection items maker}
    (advances : before.advance = collection.judge pending)
    {ended : Coroutine κ (List α) ε × Guarded (Outcome (List α) ε)}
    (ends : (collecting before).resume.Ends ended) :
    ∃ judge result,
      (judging pending).resume.Ends
          (judging { pending with judge := judge }, result) ∧
        (result = .ok .suspended →
          ended =
            (collecting
                { collection with
                  pending := some { pending with judge := judge } },
              .ok .suspended)) ∧
        ∀ verdict,
          result = .ok (.completed verdict) →
          ended =
            (collecting
                (if verdict then
                  { collection with
                    accepted := collection.accepted ++ [pending.item] }
                else collection),
              .ok .suspended) := by
  rw [resume_collecting, advances] at ends
  obtain ⟨reached, judged, rfl⟩ := Activity.ends_map.mp ends
  obtain ⟨⟨judge, result⟩, inner, rfl⟩ := Activity.ends_map.mp judged
  refine
    ⟨judge, result, Activity.ends_map.mpr ⟨_, inner, rfl⟩, ?_, ?_⟩
  · rintro rfl
    rfl
  · rintro verdict rfl
    cases verdict <;> rfl

/--
While an item is under judgement the collection suspends with the judge, and
with the verdict once more; then it goes on with the item accepted or not.
-/
theorem quiet_of_judge
    {fate : Outcome (List α) ε → Prop}
    {verdict : Bool}
    {delay rest : Nat}
    {before : Collection items maker}
    (advances : before.advance = collection.judge pending)
    (free : collection.pending = none)
    (quiet :
      (judging pending).Quiet
        (fun outcome => outcome = .completed verdict) delay)
    (later :
      (collecting
          (if verdict then
            { collection with
              accepted := collection.accepted ++ [pending.item] }
          else collection)).Quiet
        fate rest) :
    (collecting before).Quiet fate (1 + delay + rest) := by
  induction delay generalizing before pending with
  | zero =>
      obtain ⟨passive, ending⟩ := quiet
      rw [Nat.add_comm]
      refine ⟨asksOnly_of_judge advances passive, ?_⟩
      intro ended ends
      obtain ⟨judge, result, inner, -, decided⟩ :=
        ends_of_judge advances ends
      obtain ⟨outcome, same, -, rfl⟩ := ending _ inner
      rw [decided verdict same]
      exact ⟨rfl, later⟩
  | succ fewer inductionHypothesis =>
      obtain ⟨passive, ending⟩ := quiet
      rw [← Nat.add_assoc, Nat.add_right_comm]
      refine ⟨asksOnly_of_judge advances passive, ?_⟩
      intro ended ends
      obtain ⟨judge, result, inner, suspended, -⟩ :=
        ends_of_judge advances ends
      obtain ⟨same, goesOn⟩ := ending _ inner
      rw [suspended same]
      exact
        ⟨rfl,
          inductionHypothesis (Collection.advance_of_pending free _) goesOn
            later⟩

/--
A collection whose judges are all made, and quiet, suspends for each of the
items that are left as often as its judge does and once more. It completes with
those that were accepted before and those that are accepted now.
-/
theorem quiet_collecting
    {verdict : α → Bool}
    {delay : α → Nat}
    (makes : ∀ memory item, (maker.call memory item).2 = none)
    {given : List α}
    (quiet :
      ∀ memory,
      ∀ item ∈ given,
        (maker.judge memory item).Quiet
          (fun outcome => outcome = .completed (verdict item))
          (delay item))
    {place : items.State}
    (shows :
      ∀ pulls ≤ given.length, items.nth? place pulls = given[pulls]?)
    (memory : maker.State)
    (accepted : List α) :
    (collecting (⟨place, memory, none, accepted⟩ :
        Collection items maker)).Quiet
      (fun outcome =>
        outcome = .completed (accepted ++ given.filter verdict))
      (given.map fun item => 1 + delay item).sum := by
  induction given generalizing place memory accepted with
  | nil =>
      have pulled : items.pull place = ((items.pull place).1, none) :=
        Prod.ext rfl (shows 0 (Nat.le_refl 0))
      have resumed :
          (collecting (⟨place, memory, none, accepted⟩ :
              Collection items maker)).resume =
            .done
              (collecting ⟨(items.pull place).1, memory, none, []⟩,
                .ok (.completed accepted)) := by
        rw [resume_collecting, Collection.advance_of_noItem rfl pulled]
        rfl
      simp only [List.map_nil, List.sum_nil, List.filter_nil,
        List.append_nil]
      unfold Quiet
      rw [resumed]
      refine ⟨.done _, ?_⟩
      intro ended ends
      rw [Activity.ends_done.mp ends]
      exact ⟨_, rfl, rfl, rfl⟩
  | cons item rest inductionHypothesis =>
      have pulled : items.pull place = ((items.pull place).1, some item) :=
        Prod.ext rfl (shows 0 (Nat.zero_le _))
      have made :
          maker.call memory item = ((maker.call memory item).1, none) :=
        Prod.ext rfl (makes memory item)
      have later :=
        inductionHypothesis
          (fun memory other member =>
            quiet memory other (List.mem_cons_of_mem item member))
          (fun pulls within => shows (pulls + 1) (Nat.succ_le_succ within))
          (maker.call memory item).1
      rw [List.map_cons, List.sum_cons]
      apply
        quiet_of_judge (Collection.advance_of_made rfl pulled made) rfl
          (quiet memory item List.mem_cons_self)
      cases accepts : verdict item with
      | true =>
          simpa [accepts] using later (accepted ++ [item])
      | false =>
          simpa [accepts] using later accepted

end

end Coroutine

namespace Source

/-- Of a source that is cut off, only so many pulls have the items of the source. -/
theorem nth?_take
    (items : Source α)
    (cutoff : Nat)
    (place : items.State)
    (left pulls : Nat) :
    (items.take cutoff).nth? (place, left) pulls =
      if pulls < left then items.nth? place pulls else none := by
  induction pulls generalizing place left with
  | zero => cases left <;> rfl
  | succ pulls inductionHypothesis =>
      cases left with
      | zero => exact inductionHypothesis place 0
      | succ fewer =>
          simp only [Nat.add_lt_add_iff_right]
          exact inductionHypothesis (items.pull place).1 fewer

end Source

end RoundRobin
