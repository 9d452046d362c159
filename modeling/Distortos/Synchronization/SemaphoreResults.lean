import Distortos.Synchronization.SemaphoreInvariant

/-!
# What the semaphore's calls return, and what wakes a waiter

`Semaphore::wait` blocks with `Scheduler::block`, which arms no timer; `tryWaitUntil`, and so
`tryWaitFor`, block with `Scheduler::blockUntil`, whose timer unblocks the thread with `Timeout`.
`UntimedWoken` is what follows over every run: a thread blocked in `wait` that is runnable again
was unblocked by `post`. With `Invariant` it gives the result of every call (`wait` returns `0`,
`EAGAIN` comes only from `tryWait` and `ETIMEDOUT` only from a timed wait) and the only two steps
that make a thread on the blocked list runnable.
-/

namespace Distortos.Kernel

set_option autoImplicit false

open Scheduler

variable {n : Nat} {k : Kernel n}

/-- Every thread blocked in `wait` that is runnable again was unblocked by `post`. -/
def UntimedWoken (k : Kernel n) : Prop :=
  ∀ thread, k.calls thread = .blocked none → (k.threads thread).state = .runnable →
    (k.threads thread).unblockReason = .unblockRequest

/-! ## `UntimedWoken` over every run -/

theorem UntimedWoken.of_same (woken : k.UntimedWoken) {k' : Kernel n}
    (threads : k'.threads = k.threads) (calls : k'.calls = k.calls) : k'.UntimedWoken := by
  intro thread
  rw [threads, calls]
  exact woken thread

theorem unblock_untimed_woken (woken : k.UntimedWoken) (thread : Fin n) {reason : UnblockReason}
    (timed : reason = .unblockRequest ∨ k.calls thread ≠ .blocked none) :
    (k.unblock thread reason).UntimedWoken := by
  intro other blocked runnable
  by_cases same : other = thread
  · subst same
    simp only [unblock, Function.update_same] at blocked ⊢
    exact timed.resolve_right (not_not.2 blocked)
  · simp only [unblock, Function.update_noteq same] at blocked runnable ⊢
    exact woken other blocked runnable

theorem block_untimed_woken (woken : k.UntimedWoken) (thread : Fin n)
    (timePoint : Option TimePoint) : (k.block thread timePoint).UntimedWoken := by
  intro other blocked runnable
  by_cases same : other = thread
  · subst same
    simp [block] at runnable
  · simp only [block, Function.update_noteq same] at blocked runnable ⊢
    exact woken other blocked runnable

theorem change_priority_untimed_woken (woken : k.UntimedWoken) {thread : Fin n}
    {tcb : ThreadControlBlock} (loweringBefore : Bool)
    (sameState : tcb.state = (k.threads thread).state)
    (sameReason : tcb.unblockReason = (k.threads thread).unblockReason) :
    (k.changePriority thread tcb loweringBefore).UntimedWoken := by
  intro other
  rw [change_priority_threads, change_priority_calls]
  by_cases same : other = thread
  · subst same
    rw [Function.update_same, sameState, sameReason]
    exact woken other
  · rw [Function.update_noteq same]
    exact woken other

theorem post_untimed_woken (woken : k.UntimedWoken) : k.post.2.UntimedWoken := by
  unfold post
  split_ifs
  · exact woken
  · split
    · exact unblock_untimed_woken woken _ (.inl rfl)
    · exact woken.of_same rfl rfl

theorem try_wait_or_block_untimed_woken (woken : k.UntimedWoken) (thread : Fin n)
    (timePoint : Option TimePoint) : (k.tryWaitOrBlock thread timePoint).2.UntimedWoken := by
  unfold tryWaitOrBlock
  split_ifs
  · exact woken.of_same rfl rfl
  · exact block_untimed_woken woken thread timePoint

theorem call_untimed_woken (woken : k.UntimedWoken) (thread : Fin n)
    {result : Option Nat × Kernel n} (entered : k.calls thread = .idle → result.2.UntimedWoken) :
    (k.call thread result).1.UntimedWoken := by
  unfold call
  split_ifs with idle
  · exact entered idle
  · exact woken

theorem resume_untimed_woken (woken : k.UntimedWoken) (thread : Fin n) :
    (k.resume thread).1.UntimedWoken := by
  unfold resume
  split
  · split_ifs
    · intro other blocked
      by_cases same : other = thread
      · subst same
        simp at blocked
      · simp only [Function.update_noteq same] at blocked
        exact woken other blocked
    · exact woken
  · exact woken

theorem expire_cases (thread : Fin n) :
    k.expire thread = k ∨
      ∃ timePoint, k.calls thread = .blocked (some timePoint) ∧ timePoint ≤ k.now ∧
        thread ∈ k.semaphore.blockedList ∧ k.expire thread = k.unblock thread .timeout := by
  unfold expire
  split
  · rename_i timePoint timed
    split_ifs with due
    · exact .inr ⟨timePoint, timed, due.1, due.2, rfl⟩
    · exact .inl rfl
  · exact .inl rfl

theorem expire_untimed_woken (woken : k.UntimedWoken) (thread : Fin n) :
    (k.expire thread).UntimedWoken := by
  rcases expire_cases thread (k := k) with same | ⟨timePoint, timed, -, -, same⟩ <;> rw [same]
  · exact woken
  · exact unblock_untimed_woken woken thread (.inr (by simp [timed]))

theorem UntimedWoken.step (woken : k.UntimedWoken) : ∀ event, (k.step event).1.UntimedWoken
  | .post => post_untimed_woken woken
  | .tryWait thread => call_untimed_woken woken thread fun _ => woken.of_same rfl rfl
  | .tryWaitFor thread _ | .tryWaitUntil thread _ | .wait thread =>
      call_untimed_woken woken thread fun _ => try_wait_or_block_untimed_woken woken thread _
  | .resume thread => resume_untimed_woken woken thread
  | .tick => woken.of_same rfl rfl
  | .expire thread => expire_untimed_woken woken thread
  | .setPriority _ _ _ | .updateBoostedPriority _ _ => change_priority_untimed_woken woken _ rfl rfl

theorem UntimedWoken.run (woken : k.UntimedWoken) (events : List (Event n)) :
    (k.run events).1.UntimedWoken := by
  induction events generalizing k with
  | nil => exact woken
  | cons event events ih => exact ih (woken.step event)

theorem init_untimed_woken (now : TimePoint) (threads : Fin n → ThreadControlBlock)
    (value maxValue : Semaphore.Value) : (init now threads value maxValue).UntimedWoken :=
  fun _ blocked => by simp [init] at blocked

/-! ## What a step returns -/

theorem call_output {caller : Fin n} {result : Option Nat × Kernel n} {output : Output n}
    (returned : (k.call caller result).2 = some output) :
    ∃ ret, result.1 = some ret ∧ output = .returned caller ret := by
  unfold call at returned
  split_ifs at returned
  obtain ⟨ret, entered, rfl⟩ := Option.map_eq_some'.1 returned
  exact ⟨ret, entered, rfl⟩

theorem call_try_wait_or_block_returned {caller thread : Fin n} {timePoint : Option TimePoint}
    {ret : Nat} (returned : (k.call caller (k.tryWaitOrBlock caller timePoint)).2 =
      some (.returned thread ret)) : ret = 0 := by
  obtain ⟨result, entered, output⟩ := call_output returned
  obtain ⟨-, rfl⟩ := Output.returned.inj output
  unfold tryWaitOrBlock at entered
  by_cases zero : k.semaphore.value = 0
  · simp [Semaphore.try_wait_internal_of_zero zero] at entered
  · simpa [Semaphore.try_wait_internal_of_ne zero, EAGAIN, eq_comm] using entered

theorem call_try_wait_returned {caller thread : Fin n} {ret : Nat}
    (returned : (k.call caller (some k.tryWait.1, k.tryWait.2)).2 = some (.returned thread ret)) :
    thread = caller ∧ (ret = 0 ∨ ret = EAGAIN ∧ k.semaphore.value = 0) := by
  obtain ⟨result, entered, output⟩ := call_output returned
  obtain ⟨rfl, rfl⟩ := Output.returned.inj output
  refine ⟨rfl, ?_⟩
  by_cases zero : k.semaphore.value = 0
  · exact .inr ⟨by simpa [tryWait, Semaphore.try_wait_internal_of_zero zero, eq_comm] using entered,
      zero⟩
  · exact .inl (by simpa [tryWait, Semaphore.try_wait_internal_of_ne zero, eq_comm] using entered)

theorem resume_returned (woken : k.UntimedWoken) {caller thread : Fin n} {ret : Nat}
    (returned : (k.resume caller).2 = some (.returned thread ret)) :
    thread = caller ∧ (ret = 0 ∨ ret = ETIMEDOUT ∧
      (∃ timePoint, k.calls thread = .blocked (some timePoint)) ∧
      (k.threads thread).unblockReason = .timeout) := by
  unfold resume at returned
  split at returned
  · rename_i timePoint blocked
    split_ifs at returned with runnable
    obtain ⟨rfl, rfl⟩ := Output.returned.inj (Option.some.inj returned)
    refine ⟨rfl, ?_⟩
    cases reason : (k.threads caller).unblockReason with
    | unblockRequest => exact .inl rfl
    | timeout =>
        cases timePoint with
        | none => simp [woken caller blocked runnable] at reason
        | some timePoint => exact .inr ⟨rfl, ⟨timePoint, blocked⟩, rfl⟩
  · cases returned

theorem UntimedWoken.step_returned (woken : k.UntimedWoken) {event : Event n} {thread : Fin n}
    {ret : Nat} (returned : (k.step event).2 = some (.returned thread ret)) :
    ret = 0 ∨ ret = EAGAIN ∧ event = .tryWait thread ∧ k.semaphore.value = 0 ∨
      ret = ETIMEDOUT ∧ event = .resume thread ∧
        (∃ timePoint, k.calls thread = .blocked (some timePoint)) ∧
        (k.threads thread).unblockReason = .timeout := by
  cases event with
  | tryWait caller =>
      obtain ⟨rfl, result⟩ := call_try_wait_returned returned
      exact result.imp_right fun ⟨eagain, zero⟩ => .inl ⟨eagain, rfl, zero⟩
  | tryWaitFor caller _ | tryWaitUntil caller _ | wait caller =>
      exact .inl (call_try_wait_or_block_returned returned)
  | resume caller =>
      obtain ⟨rfl, result⟩ := resume_returned woken returned
      exact result.imp_right fun ⟨timedOut, rest⟩ => .inr ⟨timedOut, rfl, rest⟩
  | post | tick | expire | setPriority | updateBoostedPriority => simp [Kernel.step] at returned

theorem step_try_wait_of_zero {thread : Fin n} (idle : k.calls thread = .idle)
    (zero : k.semaphore.value = 0) :
    k.step (.tryWait thread) = (k, some (.returned thread EAGAIN)) := by
  simp [Kernel.step, call, idle, tryWait, Semaphore.try_wait_internal_of_zero zero]

def waiterThreads : Fin 1 → ThreadControlBlock := fun _ =>
  { priority := 1, boostedPriority := 0, state := .runnable, unblockReason := .unblockRequest,
    pendingSignalSet := 0, waitingSignalSet := none }

/-- From a reachable state with no waiter, take a thread outside the semaphore. Below the
maximum, `post` followed by the thread's `wait` returns `0` twice and leaves the kernel as it was.
At the maximum `post` returns `EOVERFLOW` and changes nothing, and the `wait` then takes a unit,
or blocks the thread when the maximum is `0`. -/
theorem post_then_wait (now : TimePoint) (threads : Fin n → ThreadControlBlock)
    (value maxValue : Semaphore.Value) (events : List (Event n)) :
    let k := ((init now threads value maxValue).run events).1
    ∀ thread, k.semaphore.blockedList = [] → k.calls thread = .idle →
      (k.semaphore.value ≠ maxValue →
        (k.step .post).2 = some (.posted 0) ∧
          (k.step .post).1.step (.wait thread) = (k, some (.returned thread 0))) ∧
      (k.semaphore.value = maxValue →
        k.step .post = (k, some (.posted EOVERFLOW)) ∧
        (maxValue ≠ 0 → (k.step .post).1.step (.wait thread) =
          ({ k with semaphore := { k.semaphore with value := maxValue - 1 } },
            some (.returned thread 0))) ∧
        (maxValue = 0 → (k.step .post).1.step (.wait thread) = (k.block thread none, none))) := by
  intro k thread empty idle
  have inv : k.Invariant := run_invariant (init_invariant now threads value maxValue) events
  have max : k.semaphore.maxValue = maxValue := run_max_value _ events
  rw [← max]
  refine ⟨fun notFull => ?_, fun full => ?_⟩
  · have up := value_succ_to_nat notFull inv.valueLe
    have nonzero : ({ k.semaphore with value := k.semaphore.value + 1 } : Semaphore n).value ≠ 0 :=
      fun zero => by
        change k.semaphore.value + 1 = 0 at zero
        rw [zero] at up
        simp at up
    refine ⟨by simp [Kernel.step, post_of_empty notFull empty], ?_⟩
    rw [Kernel.step, post_of_empty notFull empty]
    simp only [Kernel.step, call, idle, wait, tryWaitOrBlock, Semaphore.try_wait_internal_of_ne nonzero]
    simp [EAGAIN, BitVec.add_sub_cancel]
  · have posted : k.step .post = (k, some (.posted EOVERFLOW)) := by
      simp [Kernel.step, post_of_full full]
    refine ⟨posted, fun nonzero => ?_, fun zero => ?_⟩ <;> rw [posted]
    · have taken : k.semaphore.value ≠ 0 := by rwa [full]
      simp [Kernel.step, call, idle, wait, tryWaitOrBlock, Semaphore.try_wait_internal_of_ne taken,
        EAGAIN, full]
    · simp [Kernel.step, call, idle, wait, tryWaitOrBlock,
        Semaphore.try_wait_internal_of_zero (full.trans zero)]

theorem post_at_maximum_then_wait :
    let k := ((init 0 waiterThreads 1 1).run []).1
    k.step .post = (k, some (.posted EOVERFLOW)) ∧
      (k.step .post).1.step (.wait 0) =
        ({ k with semaphore := { k.semaphore with value := 1 - 1 } }, some (.returned 0 0)) :=
  have atMaximum := (post_then_wait 0 waiterThreads 1 1 [] 0 rfl rfl).2 (by decide)
  ⟨atMaximum.1, atMaximum.2.1 (by decide)⟩

/-! ## `tryWaitFor(0)` and `tryWait` -/

/-- For a thread outside the semaphore, `tryWaitFor(0)` makes the same step as `tryWait` exactly
when the value is nonzero. On a zero value `tryWait` returns `EAGAIN` and changes nothing, while
`tryWaitFor(0)` blocks the thread until the tick after `now`, since it waits until
`now + 0 + 1`. -/
theorem try_wait_for_zero_vs_try_wait (k : Kernel n) {thread : Fin n}
    (idle : k.calls thread = .idle) :
    (k.step (.tryWaitFor thread 0) = k.step (.tryWait thread) ↔ k.semaphore.value ≠ 0) ∧
      (k.semaphore.value = 0 →
        k.step (.tryWait thread) = (k, some (.returned thread EAGAIN)) ∧
          k.step (.tryWaitFor thread 0) = (k.block thread (some (k.now + 1)), none)) := by
  have untilNext : tryWaitForTimePoint k.now 0 = k.now + 1 := by simp [tryWaitForTimePoint]
  refine ⟨⟨fun same zero => ?_, fun nonzero => ?_⟩, fun zero =>
    ⟨step_try_wait_of_zero idle zero, by rw [step_try_wait_for_of_zero idle zero, untilNext]⟩⟩
  · rw [step_try_wait_for_of_zero idle zero, step_try_wait_of_zero idle zero] at same
    cases congrArg Prod.snd same
  · simp only [Kernel.step, call, idle, if_true, tryWaitFor, tryWaitUntil, tryWaitOrBlock, tryWait,
      Semaphore.try_wait_internal_of_ne nonzero]
    simp [EAGAIN]

theorem try_wait_for_zero_at_zero_value :
    (init 0 waiterThreads 0 1).calls 0 = .idle ∧ (init 0 waiterThreads 0 1).semaphore.value = 0 ∧
      (init 0 waiterThreads 0 1).step (.tryWaitFor 0 0) =
        ((init 0 waiterThreads 0 1).block 0 (some ((init 0 waiterThreads 0 1).now + 1)), none) :=
  ⟨rfl, by decide, ((try_wait_for_zero_vs_try_wait _ rfl).2 (by decide)).2⟩

end Distortos.Kernel
