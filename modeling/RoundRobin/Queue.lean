namespace RoundRobin

/-!
# First-in, first-out queues

A queue is kept in two lists, so that pushing and popping cost a constant on
average. `toList` shows it as one list, the element that has waited longest in
front; every operation is described by what it does to that list.
-/

/-- A queue: the front in order and the back in reverse. -/
structure Queue (α : Type u) where
  front : List α := []
  back : List α := []

namespace Queue

/-- The elements of a queue, the one that has waited longest first. -/
def toList (queue : Queue α) : List α :=
  queue.front ++ queue.back.reverse

/-- Add an element at the back. -/
def push
    (queue : Queue α)
    (element : α) :
    Queue α :=
  { queue with back := element :: queue.back }

/-- Take the element that has waited longest. -/
def pop? (queue : Queue α) : Option (α × Queue α) :=
  match queue.front with
  | element :: front => some (element, { queue with front := front })
  | [] =>
      match queue.back.reverse with
      | element :: front => some (element, { front := front, back := [] })
      | [] => none

/-- The number of elements. -/
def length (queue : Queue α) : Nat :=
  queue.front.length + queue.back.length

/-- Whether there is no element. -/
def isEmpty (queue : Queue α) : Bool :=
  queue.front.isEmpty && queue.back.isEmpty

/-- A new queue is empty. -/
@[simp] theorem toList_empty : ({} : Queue α).toList = [] :=
  rfl

/-- Pushing appends to the list of elements. -/
@[simp] theorem toList_push
    (queue : Queue α)
    (element : α) :
    (queue.push element).toList = queue.toList ++ [element] := by
  simp [toList, push]

/-- Popping takes the head off the list of elements. -/
theorem pop?_map_toList (queue : Queue α) :
    queue.pop?.map (fun popped => popped.1 :: popped.2.toList) =
      if queue.toList.isEmpty then none else some queue.toList := by
  rcases queue with ⟨front, back⟩
  cases front with
  | cons element front => simp [pop?, toList]
  | nil =>
      cases reversed : back.reverse with
      | nil => simp [pop?, toList, reversed]
      | cons element front => simp [pop?, toList, reversed]

/-- The length of a queue is that of its list of elements. -/
@[simp] theorem length_toList (queue : Queue α) :
    queue.toList.length = queue.length := by
  simp [toList, length]

end Queue

end RoundRobin
