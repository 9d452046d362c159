import Distortos.Synchronization.Semaphore

/-!
# What holds of every reachable semaphore state

`Invariant` is kept by every `Transition`, so by every `step` and every run from a semaphore
built by its constructor. Its first two fields are the semaphore's own law: the value never
exceeds the maximum (so the `++value_` of `post` cannot wrap), and a positive value and a
blocked waiter never coexist (so `post` on a non-empty list hands its unit to the head waiter).
The other fields tie the blocked list to the threads: it has no duplicates, it holds exactly
the threads blocked inside a call with state `BlockedOnSemaphore`, and it is sorted by effective
priority.
-/

namespace Distortos.Kernel

set_option autoImplicit false

open Scheduler

variable {n : Nat}

structure Invariant (k : Kernel n) : Prop where
  valueLe : k.semaphore.value.toNat ≤ k.semaphore.maxValue.toNat
  valueZeroOrEmpty : k.semaphore.value = 0 ∨ k.semaphore.blockedList = []
  nodup : k.semaphore.blockedList.Nodup
  blockedMembers : ∀ thread, thread ∈ k.semaphore.blockedList ↔
    k.calls thread ≠ .idle ∧ (k.threads thread).state = .blockedOnSemaphore
  sorted : k.semaphore.blockedList.Pairwise fun a b =>
    priorityOf k.threads b ≤ priorityOf k.threads a

/-! ## Arithmetic of `value_` -/

theorem value_succ_to_nat {value maxValue : Semaphore.Value} (notFull : value ≠ maxValue)
    (le : value.toNat ≤ maxValue.toNat) : (value + 1).toNat = value.toNat + 1 := by
  have distinct : value.toNat ≠ maxValue.toNat := fun same => notFull (BitVec.eq_of_toNat_eq same)
  have bound := maxValue.isLt
  bv_omega

theorem value_pred_to_nat {value : Semaphore.Value} (nonzero : value ≠ 0) :
    (value - 1).toNat + 1 = value.toNat := by
  have positive : value.toNat ≠ 0 := fun zero => nonzero (BitVec.eq_of_toNat_eq zero)
  bv_omega

/-! ## One lemma per operation -/

theorem unblock_invariant {k : Kernel n} (inv : k.Invariant) {thread : Fin n}
    (member : thread ∈ k.semaphore.blockedList) (reason : UnblockReason) :
    (k.unblock thread reason).Invariant where
  valueLe := inv.valueLe
  valueZeroOrEmpty := inv.valueZeroOrEmpty.imp id fun empty => by simp [unblock, empty]
  nodup := inv.nodup.erase thread
  blockedMembers other := by
    by_cases same : other = thread
    · subst same
      simp [unblock, inv.nodup.not_mem_erase]
    · simp [unblock, same, List.mem_erase_of_ne same, inv.blockedMembers other]
  sorted := by
    rw [priority_of_unblock]
    exact inv.sorted.sublist (List.erase_sublist thread _)

theorem block_invariant {k : Kernel n} (inv : k.Invariant) {thread : Fin n}
    (idle : k.calls thread = .idle) (zero : k.semaphore.value = 0) (timePoint : Option TimePoint) :
    (k.block thread timePoint).Invariant where
  valueLe := inv.valueLe
  valueZeroOrEmpty := .inl zero
  nodup := nodup_sorted_insert _ _ _ inv.nodup fun member =>
    ((inv.blockedMembers thread).1 member).1 idle
  blockedMembers other := by
    by_cases same : other = thread
    · subst same
      simp [block]
    · simp [block, same, inv.blockedMembers other]
  sorted := by
    rw [priority_of_block]
    exact sorted_insert_keeps_sorted inv.sorted le_rfl (Nat.le_succ _)

theorem change_priority_invariant {k : Kernel n} (inv : k.Invariant) {thread : Fin n}
    {tcb : ThreadControlBlock} (loweringBefore : Bool)
    (sameState : tcb.state = (k.threads thread).state) :
    (k.changePriority thread tcb loweringBefore).Invariant := by
  have members : ∀ other, other ∈ k.semaphore.blockedList ↔
      k.calls other ≠ .idle ∧ (Function.update k.threads thread tcb other).state = .blockedOnSemaphore := by
    intro other
    by_cases same : other = thread
    · subst same
      simpa [sameState] using inv.blockedMembers other
    · simpa [same] using inv.blockedMembers other
  unfold changePriority
  split_ifs with moved
  · have perm := reposition_perm (priorityOf (Function.update k.threads thread tcb))
      tcb.getEffectivePriority loweringBefore moved.2
    have key : priorityOf (Function.update k.threads thread tcb) thread = tcb.getEffectivePriority := by
      simp [priority_of_update]
    refine ⟨inv.valueLe, inv.valueZeroOrEmpty.imp id fun empty => absurd moved.2 (by simp [empty]),
      perm.nodup_iff.2 inv.nodup, fun other => perm.mem_iff.trans (members other), ?_⟩
    dsimp only
    rw [← key]
    refine reposition_keeps_sorted ((inv.sorted.sublist (List.erase_sublist thread _)).imp_of_mem ?_)
    intro a b memberA memberB le
    rwa [priority_of_update, priority_of_update, if_neg (inv.nodup.mem_erase_iff.1 memberA).1,
      if_neg (inv.nodup.mem_erase_iff.1 memberB).1]
  · have unchanged : ∀ a ∈ k.semaphore.blockedList,
        priorityOf (Function.update k.threads thread tcb) a = priorityOf k.threads a := by
      intro a member
      rw [priority_of_update]
      split_ifs with same
      · subst same
        exact (not_not.1 fun ne => moved ⟨ne, member⟩).symm
      · rfl
    refine ⟨inv.valueLe, inv.valueZeroOrEmpty, inv.nodup, members, inv.sorted.imp_of_mem ?_⟩
    intro a b memberA memberB le
    dsimp only
    rwa [unchanged a memberA, unchanged b memberB]

/-- Every step keeps the invariant. -/
theorem Transition.invariant {k k' : Kernel n} {output : Option (Output n)}
    (transition : Transition k k' output) (inv : k.Invariant) : k'.Invariant := by
  cases transition with
  | stutter => exact inv
  | overflow _ => exact inv
  | handOver list _ => exact unblock_invariant inv (list ▸ List.mem_cons_self _ _) _
  | increment empty notFull =>
      refine ⟨?_, .inr empty, inv.nodup, inv.blockedMembers, inv.sorted⟩
      have := value_succ_to_nat notFull inv.valueLe
      have := inv.valueLe
      have : k.semaphore.value.toNat ≠ k.semaphore.maxValue.toNat :=
        fun same => notFull (BitVec.eq_of_toNat_eq same)
      show (k.semaphore.value + 1).toNat ≤ k.semaphore.maxValue.toNat
      omega
  | take _ nonzero =>
      refine ⟨?_, .inr (inv.valueZeroOrEmpty.resolve_left nonzero), inv.nodup, inv.blockedMembers,
        inv.sorted⟩
      have := value_pred_to_nat nonzero
      have := inv.valueLe
      show (k.semaphore.value - 1).toNat ≤ k.semaphore.maxValue.toNat
      omega
  | refuse _ _ => exact inv
  | block idle zero => exact block_invariant inv idle zero _
  | resume blocked runnable =>
      rename_i thread timePoint
      refine ⟨inv.valueLe, inv.valueZeroOrEmpty, inv.nodup, fun other => ?_, inv.sorted⟩
      by_cases same : other = thread
      · subst same
        simp [(inv.blockedMembers other).not.2 (by simp [runnable])]
      · simpa [same] using inv.blockedMembers other
  | tick => exact ⟨inv.valueLe, inv.valueZeroOrEmpty, inv.nodup, inv.blockedMembers, inv.sorted⟩
  | expire member => exact unblock_invariant inv member _
  | changePriority sameState _ => exact change_priority_invariant inv _ sameState

theorem Transition.max_value {k k' : Kernel n} {output : Option (Output n)}
    (transition : Transition k k' output) : k'.semaphore.maxValue = k.semaphore.maxValue := by
  cases transition <;> try rfl
  unfold Kernel.changePriority
  split_ifs <;> rfl

theorem run_invariant {k : Kernel n} (inv : k.Invariant) (events : List (Event n)) :
    (k.run events).1.Invariant := by
  induction events generalizing k with
  | nil => exact inv
  | cons event events ih => exact ih ((step_transition k event).invariant inv)

theorem run_max_value (k : Kernel n) (events : List (Event n)) :
    (k.run events).1.semaphore.maxValue = k.semaphore.maxValue := by
  induction events generalizing k with
  | nil => rfl
  | cons event events ih => exact (ih _).trans (step_transition k event).max_value

theorem init_invariant (now : TimePoint) (threads : Fin n → ThreadControlBlock)
    (value maxValue : Semaphore.Value) : (init now threads value maxValue).Invariant where
  valueLe := by
    show (Semaphore.create value maxValue : Semaphore n).value.toNat ≤ maxValue.toNat
    rw [Semaphore.create_value_to_nat]
    exact min_le_right _ _
  valueZeroOrEmpty := .inr rfl
  nodup := List.nodup_nil
  blockedMembers _ := by simp [init, Semaphore.create]
  sorted := List.Pairwise.nil

theorem Invariant.post_of_waiter {k : Kernel n} (inv : k.Invariant)
    (atLeastOne : 1 ≤ k.semaphore.maxValue.toNat) {head : Fin n} {rest : List (Fin n)}
    (waiting : k.semaphore.blockedList = head :: rest) :
    k.post = (0, k.unblock head .unblockRequest) := by
  have zero : k.semaphore.value = 0 := inv.valueZeroOrEmpty.resolve_right (by simp [waiting])
  have notFull : k.semaphore.value ≠ k.semaphore.maxValue := fun full => by
    rw [← full, zero] at atLeastOne
    exact absurd atLeastOne (by decide)
  exact Kernel.post_of_waiter notFull waiting

/-- Every state reached from `Semaphore(value, maxValue)`, by any interleaving of the semaphore's
calls, expiries and priority changes: the value stays within the maximum, so the increment of
`post` does not wrap; a positive value and a blocked waiter never coexist; and with a maximum of
at least one, `post` on a non-empty list returns `0` and unblocks the head waiter. -/
theorem semaphore_reachable_state (now : TimePoint) (threads : Fin n → ThreadControlBlock)
    (value maxValue : Semaphore.Value) (events : List (Event n)) :
    let k := ((init now threads value maxValue).run events).1
    k.semaphore.maxValue = maxValue ∧
    k.semaphore.value.toNat ≤ maxValue.toNat ∧
    (k.semaphore.value = 0 ∨ k.semaphore.blockedList = []) ∧
    (k.semaphore.value ≠ maxValue → k.semaphore.blockedList = [] →
      k.post.1 = 0 ∧ k.post.2.semaphore.value.toNat = k.semaphore.value.toNat + 1) ∧
    (1 ≤ maxValue.toNat → ∀ head rest, k.semaphore.blockedList = head :: rest →
      k.post = (0, k.unblock head .unblockRequest) ∧
      (k.unblock head .unblockRequest).semaphore.blockedList = rest ∧
      ((k.unblock head .unblockRequest).threads head).state = .runnable ∧
      ((k.unblock head .unblockRequest).threads head).unblockReason = .unblockRequest) := by
  intro k
  have inv : k.Invariant := run_invariant (init_invariant now threads value maxValue) events
  have max : k.semaphore.maxValue = maxValue := run_max_value _ events
  refine ⟨max, max ▸ inv.valueLe, inv.valueZeroOrEmpty, fun notFull empty => ?_,
    fun atLeastOne head rest waiting => ?_⟩
  · rw [← max] at notFull
    rw [post_of_empty notFull empty]
    exact ⟨rfl, value_succ_to_nat notFull inv.valueLe⟩
  · refine ⟨inv.post_of_waiter (max ▸ atLeastOne) waiting, ?_, by simp [unblock],
      by simp [unblock]⟩
    simp [unblock, waiting]

/-- In every reachable state the blocked list holds each thread at most once, holds exactly the
threads whose call waits on the semaphore in state `BlockedOnSemaphore`, and is ordered by effective
priority, highest first. -/
theorem blocked_list_well_formed (now : TimePoint) (threads : Fin n → ThreadControlBlock)
    (value maxValue : Semaphore.Value) (events : List (Event n)) :
    let k := ((init now threads value maxValue).run events).1
    k.semaphore.blockedList.Nodup ∧
      (∀ thread, thread ∈ k.semaphore.blockedList ↔
        k.calls thread ≠ .idle ∧ (k.threads thread).state = .blockedOnSemaphore) ∧
      k.semaphore.blockedList.Pairwise fun a b => priorityOf k.threads b ≤ priorityOf k.threads a := by
  intro k
  have inv : k.Invariant := run_invariant (init_invariant now threads value maxValue) events
  exact ⟨inv.nodup, inv.blockedMembers, inv.sorted⟩

end Distortos.Kernel
