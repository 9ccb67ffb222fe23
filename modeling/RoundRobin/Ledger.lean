import RoundRobin.Source
import RoundRobin.Task.Id

namespace RoundRobin

/-!
# Ledgers

A ledger records the final outcomes of tasks under their identities and
remembers the order in which they were recorded. It never has two entries of a
task: recording a second outcome replaces the first where it stands. Taking an
entry out leaves the order of the others as it was.
-/

/-- Outcomes under their tasks' identities, in the order of recording. -/
structure Ledger (ν : Type) where
  entries : Array (TaskId × ν) := #[]
  deriving Repr

namespace Ledger

/-- The entries, the oldest first. -/
def toList (ledger : Ledger ν) : List (TaskId × ν) :=
  ledger.entries.toList

/-- The value recorded for a task. -/
def get?
    (ledger : Ledger ν)
    (id : TaskId) :
    Option ν :=
  (ledger.toList.find? fun entry => entry.1 = id).map Prod.snd

/-- Whether a task has an entry. -/
def contains
    (ledger : Ledger ν)
    (id : TaskId) :
    Bool :=
  ledger.toList.any fun entry => entry.1 = id

/-- Record a value for a task; if it has one already, the new one takes its place. -/
def record
    (ledger : Ledger ν)
    (id : TaskId)
    (value : ν) :
    Ledger ν :=
  if ledger.contains id then
    { entries :=
        ledger.entries.map fun entry =>
          if entry.1 = id then (id, value) else entry }
  else { entries := ledger.entries.push (id, value) }

/-- The number of entries. -/
def length (ledger : Ledger ν) : Nat :=
  ledger.entries.size

/-- Whether nothing is recorded. -/
def isEmpty (ledger : Ledger ν) : Bool :=
  ledger.entries.isEmpty

/-- The recorded tasks, the oldest first. -/
def ids (ledger : Ledger ν) : List TaskId :=
  ledger.toList.map Prod.fst

/-- Take the value of a task out of the ledger. -/
def take
    (ledger : Ledger ν)
    (id : TaskId) :
    Ledger ν × Option ν :=
  ({ entries := (ledger.toList.eraseP fun entry => entry.1 = id).toArray },
    ledger.get? id)

/-- A source that gives away the entries of a ledger, the oldest first. -/
def emptying (ledger : Ledger ν) : Source (TaskId × ν) where
  State := Ledger ν
  state := ledger
  pull := fun left =>
    match left.toList with
    | [] => (left, none)
    | entry :: rest => ({ entries := rest.toArray }, some entry)

/-- A new ledger has no entries. -/
@[simp] theorem toList_empty : ({} : Ledger ν).toList = [] :=
  rfl

/-- A task is recorded exactly if it has an entry. -/
theorem mem_ids
    {ledger : Ledger ν}
    {id : TaskId} :
    id ∈ ledger.ids ↔ ledger.contains id = true := by
  simp [ids, contains]

theorem not_mem_ids
    {ledger : Ledger ν}
    {id : TaskId} :
    id ∉ ledger.ids ↔ ledger.contains id = false := by
  rw [mem_ids, Bool.not_eq_true]

/-- Recording a task without an entry appends one. -/
@[simp] theorem toList_record
    {ledger : Ledger ν}
    {id : TaskId}
    (absent : id ∉ ledger.ids)
    (value : ν) :
    (ledger.record id value).toList = ledger.toList ++ [(id, value)] := by
  rw [not_mem_ids] at absent
  simp [toList, record, absent]

/-- Whatever a ledger had of a task, it has what was recorded last. -/
theorem mem_toList_record
    (ledger : Ledger ν)
    (id : TaskId)
    (value : ν) :
    (id, value) ∈ (ledger.record id value).toList := by
  by_cases present : id ∈ ledger.ids
  · obtain ⟨entry, member, same⟩ := List.mem_map.mp present
    rw [mem_ids] at present
    simp only [toList, record, present, ↓reduceIte, Array.toList_map]
    exact List.mem_map.mpr ⟨entry, member, if_pos same⟩
  · rw [toList_record present]
    exact List.mem_append_right _ (List.mem_singleton_self _)

/-- Taking removes the first entry of the task. -/
@[simp] theorem toList_take
    (ledger : Ledger ν)
    (id : TaskId) :
    (ledger.take id).1.toList =
      ledger.toList.eraseP fun entry => entry.1 = id := by
  simp [toList, take]

/-- Recording a task without an entry appends the task. -/
@[simp] theorem ids_record
    {ledger : Ledger ν}
    {id : TaskId}
    (absent : id ∉ ledger.ids)
    (value : ν) :
    (ledger.record id value).ids = ledger.ids ++ [id] := by
  rw [ids, toList_record absent, List.map_append]
  rfl

/-- Recording a task with an entry leaves the tasks as they are. -/
theorem ids_record_of_mem
    {ledger : Ledger ν}
    {id : TaskId}
    (present : id ∈ ledger.ids)
    (value : ν) :
    (ledger.record id value).ids = ledger.ids := by
  rw [mem_ids] at present
  simp only [ids, toList, record, present, ↓reduceIte, Array.toList_map,
    List.map_map]
  apply List.map_congr_left
  intro entry _
  rw [Function.comp_apply]
  split
  · next same => exact same.symm
  · rfl

/-- No task gets two entries by recording. -/
theorem nodup_ids_record
    {ledger : Ledger ν}
    (noDuplicates : ledger.ids.Nodup)
    (id : TaskId)
    (value : ν) :
    (ledger.record id value).ids.Nodup := by
  by_cases present : id ∈ ledger.ids
  · rw [ids_record_of_mem present]
    exact noDuplicates
  · rw [ids_record present]
    refine List.nodup_append.mpr ⟨noDuplicates, by simp, ?_⟩
    intro other member last isLast
    rw [List.mem_singleton.mp isLast]
    exact fun same => present (same ▸ member)

/-- The length of a ledger is the number of its entries. -/
@[simp] theorem length_toList (ledger : Ledger ν) :
    ledger.toList.length = ledger.length :=
  rfl

end Ledger

end RoundRobin
