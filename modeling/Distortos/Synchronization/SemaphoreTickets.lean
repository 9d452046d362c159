import Distortos.Synchronization.SemaphoreInvariant
import Mathlib.Data.List.FinRange

/-!
# Every successful wait is paid for

A unit of `value_` is spent by a wait-family call that returns `0` at once. A waiter that
`post` unblocks holds a ticket instead: its call is still open, the scheduler made it runnable
and recorded `UnblockRequest`, and when it runs its call returns `0`. An expiry reaches only
threads still on the blocked list, so a ticket holder is never timed out.

`TicketEffect` is what one step does to the value and to the set of ticket holders, read off
`Transition` once; the balance of successful calls, tickets and value over a whole run, and the
ticket discipline `TicketStep` that every step keeps, both follow from it.
-/

namespace Distortos

set_option autoImplicit false

open Scheduler

variable {n : Nat}

namespace Output

/-- The value a step returned to its caller. -/
def ret : Output n → Nat
  | .posted ret => ret
  | .returned _ ret => ret

def isSuccessfulWait : Output n → Bool
  | .posted _ => false
  | .returned _ ret => ret == 0

def isSuccessfulPost : Output n → Bool
  | .posted ret => ret == 0
  | .returned _ _ => false

end Output

/-- The wait-family calls among `outputs` that returned `0`. -/
def successfulWaits (outputs : List (Output n)) : Nat :=
  outputs.countP Output.isSuccessfulWait

/-- The `post` calls among `outputs` that returned `0`. -/
def successfulPosts (outputs : List (Output n)) : Nat :=
  outputs.countP Output.isSuccessfulPost

@[simp] theorem successful_waits_nil : successfulWaits ([] : List (Output n)) = 0 := rfl

@[simp] theorem successful_posts_nil : successfulPosts ([] : List (Output n)) = 0 := rfl

@[simp] theorem successful_waits_append (first rest : List (Output n)) :
    successfulWaits (first ++ rest) = successfulWaits first + successfulWaits rest :=
  List.countP_append _ _ _

@[simp] theorem successful_posts_append (first rest : List (Output n)) :
    successfulPosts (first ++ rest) = successfulPosts first + successfulPosts rest :=
  List.countP_append _ _ _

@[simp] theorem successful_waits_posted (ret : Nat) :
    successfulWaits [(Output.posted ret : Output n)] = 0 := rfl

@[simp] theorem successful_posts_returned (thread : Fin n) (ret : Nat) :
    successfulPosts [Output.returned thread ret] = 0 := rfl

@[simp] theorem successful_waits_returned (thread : Fin n) (ret : Nat) :
    successfulWaits [Output.returned thread ret] = if ret = 0 then 1 else 0 := by
  cases ret <;> rfl

@[simp] theorem successful_posts_posted (ret : Nat) :
    successfulPosts [(Output.posted ret : Output n)] = if ret = 0 then 1 else 0 := by
  cases ret <;> rfl

namespace Kernel

/-- `thread` was unblocked by `post` and its call has not returned yet. -/
def HoldsTicket (k : Kernel n) (thread : Fin n) : Prop :=
  k.calls thread ≠ .idle ∧ (k.threads thread).state = .runnable ∧
    (k.threads thread).unblockReason = .unblockRequest

instance (k : Kernel n) : DecidablePred k.HoldsTicket :=
  fun _ => inferInstanceAs (Decidable (_ ∧ _ ∧ _))

/-- The number of tickets handed out and not yet redeemed. -/
def tickets (k : Kernel n) : Nat :=
  (List.finRange n).countP fun thread => decide (k.HoldsTicket thread)

/-- `k` and `k'` have the same ticket holders, except perhaps `thread`. -/
def HoldersAgreeOff (k k' : Kernel n) (thread : Fin n) : Prop :=
  ∀ other, other ≠ thread → (k'.HoldsTicket other ↔ k.HoldsTicket other)

/-- `k` and `k'` have the same ticket holders. -/
def SameHolders (k k' : Kernel n) : Prop :=
  ∀ thread, k'.HoldsTicket thread ↔ k.HoldsTicket thread

/-! ## Counting -/

theorem tickets_add_of_agree {k k' : Kernel n} {thread : Fin n}
    (agree : HoldersAgreeOff k k' thread) :
    k'.tickets + (if k.HoldsTicket thread then 1 else 0) =
      k.tickets + (if k'.HoldsTicket thread then 1 else 0) := by
  have perm := List.perm_cons_erase (List.mem_finRange thread)
  have rest : ((List.finRange n).erase thread).countP (fun t => decide (k'.HoldsTicket t)) =
      ((List.finRange n).erase thread).countP (fun t => decide (k.HoldsTicket t)) :=
    List.countP_congr fun other member => by
      simp [agree other ((List.nodup_finRange n).mem_erase_iff.1 member).1]
  simp only [tickets, perm.countP_eq, List.countP_cons, rest, decide_eq_true_eq]
  split_ifs <;> omega

theorem tickets_of_same_holders {k k' : Kernel n} (same : SameHolders k k') :
    k'.tickets = k.tickets :=
  List.countP_congr fun thread _ => by simp [same thread]

theorem init_tickets (now : TimePoint) (threads : Fin n → ThreadControlBlock)
    (value maxValue : Semaphore.Value) : (init now threads value maxValue).tickets = 0 :=
  List.countP_eq_zero.2 fun _ _ => by simp [HoldsTicket, init]

/-! ## Ticket holders across the operations -/

theorem not_holds_ticket_of_idle {k : Kernel n} {thread : Fin n} (idle : k.calls thread = .idle) :
    ¬k.HoldsTicket thread := fun holds => holds.1 idle

theorem Invariant.not_holds_ticket {k : Kernel n} (inv : k.Invariant) {thread : Fin n}
    (member : thread ∈ k.semaphore.blockedList) : ¬k.HoldsTicket thread := fun holds =>
  absurd (holds.2.1.symm.trans ((inv.blockedMembers thread).1 member).2) (by decide)

theorem holds_ticket_unblock (k : Kernel n) (thread other : Fin n) (reason : UnblockReason) :
    (k.unblock thread reason).HoldsTicket other ↔
      if other = thread then k.calls thread ≠ .idle ∧ reason = .unblockRequest
      else k.HoldsTicket other := by
  by_cases same : other = thread
  · subst same
    simp [HoldsTicket, unblock]
  · simp [HoldsTicket, unblock, same]

theorem holds_ticket_block (k : Kernel n) (thread other : Fin n) (timePoint : Option TimePoint) :
    (k.block thread timePoint).HoldsTicket other ↔ other ≠ thread ∧ k.HoldsTicket other := by
  by_cases same : other = thread
  · subst same
    simp [HoldsTicket, block]
  · simp [HoldsTicket, block, same]

theorem holds_ticket_return (k : Kernel n) (thread other : Fin n) :
    ({ k with calls := Function.update k.calls thread .idle } : Kernel n).HoldsTicket other ↔
      other ≠ thread ∧ k.HoldsTicket other := by
  by_cases same : other = thread
  · subst same
    simp [HoldsTicket]
  · simp [HoldsTicket, same]

theorem holds_ticket_change_priority (k : Kernel n) {thread : Fin n} {tcb : ThreadControlBlock}
    (loweringBefore : Bool) (sameState : tcb.state = (k.threads thread).state)
    (sameReason : tcb.unblockReason = (k.threads thread).unblockReason) (other : Fin n) :
    (k.changePriority thread tcb loweringBefore).HoldsTicket other ↔ k.HoldsTicket other := by
  by_cases same : other = thread
  · subst same
    simp [HoldsTicket, sameState, sameReason]
  · simp [HoldsTicket, same]

theorem resume_of_holds_ticket {k : Kernel n} {thread : Fin n} (holds : k.HoldsTicket thread) :
    k.resume thread =
      ({ k with calls := Function.update k.calls thread .idle }, some (.returned thread 0)) := by
  obtain ⟨inCall, runnable, reason⟩ := holds
  unfold resume
  split
  · rw [if_pos runnable, reason]
    rfl
  · contradiction

/-! ## What a step does to the value and the tickets -/

theorem error_ret_ne_zero {result : Output n} (codes : result.ret ∈ [EOVERFLOW, EAGAIN, ETIMEDOUT]) :
    result.ret ≠ 0 := fun zero => absurd (zero ▸ codes) (by decide)

/-- The effect of one step on `value_` and on the ticket holders, with the step's result. -/
inductive TicketEffect (k k' : Kernel n) : Option (Output n) → Prop where
  | silent : k'.semaphore.value = k.semaphore.value → SameHolders k k' → TicketEffect k k' none
  | error {result : Output n} : result.ret ∈ [EOVERFLOW, EAGAIN, ETIMEDOUT] →
      k'.semaphore.value = k.semaphore.value → SameHolders k k' →
      (∀ thread ret, result = .returned thread ret → ¬k.HoldsTicket thread) →
      TicketEffect k k' (some result)
  | increment : k'.semaphore.value.toNat = k.semaphore.value.toNat + 1 → SameHolders k k' →
      TicketEffect k k' (some (.posted 0))
  | handOver {waiter : Fin n} : waiter ∈ k.semaphore.blockedList →
      k'.semaphore.value = k.semaphore.value → ¬k.HoldsTicket waiter → k'.HoldsTicket waiter →
      HoldersAgreeOff k k' waiter → TicketEffect k k' (some (.posted 0))
  | take {thread : Fin n} : k'.semaphore.value.toNat + 1 = k.semaphore.value.toNat →
      SameHolders k k' → ¬k.HoldsTicket thread → TicketEffect k k' (some (.returned thread 0))
  | redeem {thread : Fin n} : k'.semaphore.value = k.semaphore.value → k.HoldsTicket thread →
      ¬k'.HoldsTicket thread → HoldersAgreeOff k k' thread →
      TicketEffect k k' (some (.returned thread 0))

variable {k k' : Kernel n} {output : Option (Output n)}

theorem Transition.ticket_effect (transition : Transition k k' output) (inv : k.Invariant) :
    TicketEffect k k' output := by
  cases transition with
  | stutter => exact .silent rfl fun _ => Iff.rfl
  | overflow _ => exact .error (by simp [Output.ret]) rfl (fun _ => Iff.rfl) nofun
  | @handOver head rest list _ =>
      have member : head ∈ k.semaphore.blockedList := list ▸ List.mem_cons_self _ _
      have inCall := ((inv.blockedMembers head).1 member).1
      refine .handOver member rfl (inv.not_holds_ticket member) ?_ fun other ne => ?_
      · simpa [holds_ticket_unblock] using inCall
      · simp [holds_ticket_unblock, ne]
  | increment _ notFull =>
      exact .increment (value_succ_to_nat notFull inv.valueLe) fun _ => Iff.rfl
  | take idle nonzero =>
      exact .take (value_pred_to_nat nonzero) (fun _ => Iff.rfl) (not_holds_ticket_of_idle idle)
  | refuse idle _ =>
      refine .error (by simp [Output.ret]) rfl (fun _ => Iff.rfl) fun _ _ returned => ?_
      cases returned
      exact not_holds_ticket_of_idle idle
  | @block thread _ idle _ =>
      refine .silent rfl fun other => ?_
      rw [holds_ticket_block]
      by_cases same : other = thread
      · subst same
        simpa using not_holds_ticket_of_idle idle
      · simp [same]
  | resume blocked runnable =>
      rename_i thread timePoint
      have returned := holds_ticket_return k thread
      cases reason : (k.threads thread).unblockReason with
      | unblockRequest =>
          refine .redeem rfl ⟨by simp [blocked], runnable, reason⟩ (by simp [returned]) ?_
          intro other ne
          simp [returned, ne]
      | timeout =>
          have free : ¬k.HoldsTicket thread := fun holds => by simp [holds.2.2] at reason
          refine .error (by simp [Output.ret, blockResult]) rfl (fun other => ?_) fun _ _ same => ?_
          · by_cases here : other = thread
            · simp [returned, here, free]
            · simp [returned, here]
          · cases same
            exact free
  | tick => exact .silent rfl fun _ => Iff.rfl
  | @expire thread member =>
      refine .silent rfl fun other => ?_
      by_cases same : other = thread
      · subst same
        simp [holds_ticket_unblock, inv.not_holds_ticket member]
      · simp [holds_ticket_unblock, same]
  | changePriority sameState sameReason =>
      exact .silent (by simp) (holds_ticket_change_priority k _ sameState sameReason)

theorem TicketEffect.balance (effect : TicketEffect k k' output) :
    successfulWaits output.toList + k'.tickets + k'.semaphore.value.toNat =
      k.tickets + k.semaphore.value.toNat + successfulPosts output.toList := by
  cases effect with
  | silent value same => simp [value, tickets_of_same_holders same]
  | @error result codes value same _ =>
      have nonzero := error_ret_ne_zero codes
      cases result <;> simp_all [Output.ret, tickets_of_same_holders same]
  | increment up same =>
      simp [up, tickets_of_same_holders same]
      omega
  | handOver _ value before after agree =>
      have count := tickets_add_of_agree agree
      simp only [before, after, if_false, if_true] at count
      simp [value]
      omega
  | take down same _ =>
      simp [tickets_of_same_holders same]
      omega
  | redeem value before after agree =>
      have count := tickets_add_of_agree agree
      simp only [before, after, if_false, if_true] at count
      simp [value]
      omega

/-! ## The ticket discipline of one step -/

theorem run_balance {k : Kernel n} (inv : k.Invariant) (events : List (Event n)) :
    successfulWaits (k.run events).2 + (k.run events).1.tickets +
        (k.run events).1.semaphore.value.toNat =
      k.tickets + k.semaphore.value.toNat + successfulPosts (k.run events).2 := by
  induction events generalizing k with
  | nil => simp [run]
  | cons event events ih =>
      have transition := step_transition k event
      have first := (transition.ticket_effect inv).balance
      have rest := ih (transition.invariant inv)
      simp only [run, successful_waits_append, successful_posts_append]
      omega

end Kernel

end Distortos
