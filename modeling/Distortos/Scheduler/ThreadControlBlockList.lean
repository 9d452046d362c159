import Distortos.Scheduler.ThreadControlBlock

/-!
# Priority-ordered thread lists

Modelled from the spec: `ThreadControlBlockList` and `ThreadControlBlock::reposition`, whose
sources are not under src/. A list keeps its threads in descending effective priority and, within
one priority, in the order they were inserted; a thread whose effective priority changes is taken
out and inserted again. The header's documentation of `reposition` fixes the one choice left:
when the priority is lowered the thread is inserted as if its priority were one higher, so it
heads the group of its new priority; otherwise it closes that group.

The lists are generic in their elements; the kernels store thread indices and read each thread's
effective priority from their thread table.
-/

namespace Distortos.Scheduler

set_option autoImplicit false

variable {α : Type}

/-- Modelled from the spec: the sorted insertion of `ThreadControlBlockList`. `thread` goes in
front of the first element whose priority is below `priority`. -/
def sortedInsert (priorityOf : α → Nat) (priority : Nat) (thread : α) : List α → List α
  | [] => [thread]
  | head :: rest =>
      if priorityOf head < priority then thread :: head :: rest
      else head :: sortedInsert priorityOf priority thread rest

/-- Modelled from the spec: `ThreadControlBlock::reposition(loweringBefore)` for a thread whose
new effective priority is `priority`. -/
def reposition [DecidableEq α] (priorityOf : α → Nat) (priority : Nat) (loweringBefore : Bool) (thread : α)
    (list : List α) : List α :=
  sortedInsert priorityOf (if loweringBefore then priority + 1 else priority) thread
    (list.erase thread)

section

variable (priorityOf : α → Nat) (priority : Nat) (thread : α)

theorem sorted_insert_perm (list : List α) :
    (sortedInsert priorityOf priority thread list).Perm (thread :: list) := by
  induction list with
  | nil => rfl
  | cons head rest ih =>
      unfold sortedInsert
      split_ifs
      · rfl
      · exact (ih.cons head).trans (List.Perm.swap thread head rest)

@[simp]
theorem mem_sorted_insert (list : List α) (other : α) :
    other ∈ sortedInsert priorityOf priority thread list ↔ other = thread ∨ other ∈ list :=
  (sorted_insert_perm priorityOf priority thread list).mem_iff.trans List.mem_cons

theorem nodup_sorted_insert {list : List α} (nodup : list.Nodup) (fresh : thread ∉ list) :
    (sortedInsert priorityOf priority thread list).Nodup :=
  (sorted_insert_perm priorityOf priority thread list).nodup_iff.2 (List.nodup_cons.2 ⟨fresh, nodup⟩)

end

theorem pairwise_sorted_insert {R : α → α → Prop} {priorityOf : α → Nat} {priority : Nat}
    {thread : α} {list : List α} (related : list.Pairwise R)
    (sorted : list.Pairwise fun a b => priorityOf b ≤ priorityOf a)
    (ahead : ∀ a ∈ list, priority ≤ priorityOf a → R a thread)
    (behind : ∀ a ∈ list, priorityOf a < priority → R thread a) :
    (sortedInsert priorityOf priority thread list).Pairwise R := by
  induction list with
  | nil => exact List.pairwise_singleton R thread
  | cons head rest ih =>
      rw [List.pairwise_cons] at related sorted
      unfold sortedInsert
      split_ifs with lower
      · refine List.pairwise_cons.2 ⟨fun a member => behind a member ?_, List.pairwise_cons.2 related⟩
        rcases List.mem_cons.1 member with rfl | later
        · exact lower
        · exact lt_of_le_of_lt (sorted.1 a later) lower
      · refine List.pairwise_cons.2 ⟨fun a member => ?_, ?_⟩
        · rcases (mem_sorted_insert priorityOf priority thread rest a).1 member with rfl | later
          · exact ahead head (List.mem_cons_self head rest) (Nat.le_of_not_lt lower)
          · exact related.1 a later
        · exact ih related.2 sorted.2 (fun a member => ahead a (List.mem_cons_of_mem head member))
            (fun a member => behind a (List.mem_cons_of_mem head member))

theorem pairwise_sorted_insert_of_related {R : α → α → Prop} {priorityOf : α → Nat}
    {priority : Nat} {thread : α} {list : List α} (related : list.Pairwise R)
    (toThread : ∀ a ∈ list, R a thread) (fromThread : ∀ a ∈ list, R thread a) :
    (sortedInsert priorityOf priority thread list).Pairwise R := by
  induction list with
  | nil => exact List.pairwise_singleton R thread
  | cons head rest ih =>
      rw [List.pairwise_cons] at related
      unfold sortedInsert
      split_ifs
      · exact List.pairwise_cons.2 ⟨fromThread, List.pairwise_cons.2 related⟩
      · refine List.pairwise_cons.2 ⟨fun a member => ?_, ih related.2
          (fun a member => toThread a (List.mem_cons_of_mem head member))
          (fun a member => fromThread a (List.mem_cons_of_mem head member))⟩
        rcases (mem_sorted_insert priorityOf priority thread rest a).1 member with rfl | later
        · exact toThread head (List.mem_cons_self head rest)
        · exact related.1 a later

theorem sorted_insert_keeps_sorted {priorityOf : α → Nat} {priority : Nat} {thread : α} {list : List α}
    (sorted : list.Pairwise fun a b => priorityOf b ≤ priorityOf a)
    (atLeast : priorityOf thread ≤ priority) (atMost : priority ≤ priorityOf thread + 1) :
    (sortedInsert priorityOf priority thread list).Pairwise
      fun a b => priorityOf b ≤ priorityOf a :=
  pairwise_sorted_insert sorted sorted (fun _ _ ahead => by omega) (fun _ _ behind => by omega)

theorem reposition_perm [DecidableEq α] (priorityOf : α → Nat) (priority : Nat) (loweringBefore : Bool)
    {thread : α} {list : List α} (member : thread ∈ list) :
    (reposition priorityOf priority loweringBefore thread list).Perm list :=
  (sorted_insert_perm _ _ _ _).trans (List.perm_cons_erase member).symm

theorem reposition_keeps_sorted [DecidableEq α] {priorityOf : α → Nat} {loweringBefore : Bool} {thread : α}
    {list : List α} (sorted : (list.erase thread).Pairwise fun a b => priorityOf b ≤ priorityOf a) :
    (reposition priorityOf (priorityOf thread) loweringBefore thread list).Pairwise
      fun a b => priorityOf b ≤ priorityOf a := by
  unfold reposition
  split_ifs <;> exact sorted_insert_keeps_sorted sorted (by omega) (by omega)

end Distortos.Scheduler
