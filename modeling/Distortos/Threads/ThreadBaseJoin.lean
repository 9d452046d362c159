import Distortos.Threads.ThreadBase
import Distortos.Synchronization.SemaphoreResults

/-!
# What `join` can observe

`joinSemaphore_` starts at `0` and is posted only by `terminationHook`, inside the
`Scheduler::remove` that `threadRunner` calls once `run()` has returned. Until then its value is
`0` and no joiner holds a ticket, so no `join` returns `0`; the one post finds the value `0` below
`UINT_MAX` and returns `0`, so the value never exceeds one.

`JoinInvariant` collects what holds of every reachable `ThreadWorld`; the run lemmas carry it,
and the count of posts, along any interleaving. The semaphore's ticket balance then accounts for
the one post: the joins that returned `0`, the joiners it unblocked and the value add up to the
posts made, so at most one `join` ever returns `0`.
-/

namespace Distortos

set_option autoImplicit false

open Scheduler

variable {n : Nat}

namespace Kernel

variable {k k' : Kernel n} {output : Option (Output n)}

theorem Invariant.set_state (inv : k.Invariant) {thread : Fin n} (idle : k.calls thread = .idle)
    (state : State) :
    ({ k with threads := Function.update k.threads thread { k.threads thread with state := state } }
      : Kernel n).Invariant where
  valueLe := inv.valueLe
  valueZeroOrEmpty := inv.valueZeroOrEmpty
  nodup := inv.nodup
  blockedMembers other := by
    by_cases same : other = thread
    · subst same
      simpa [idle] using inv.blockedMembers other
    · simpa [same] using inv.blockedMembers other
  sorted := by
    have same : priorityOf (Function.update k.threads thread { k.threads thread with state := state }) =
        priorityOf k.threads := priority_of_update_of_same rfl
    dsimp only
    rw [same]
    exact inv.sorted

theorem set_state_same_holders {thread : Fin n} (idle : k.calls thread = .idle) (state : State) :
    SameHolders k
      { k with threads := Function.update k.threads thread { k.threads thread with state := state } } := by
  intro other
  by_cases same : other = thread
  · subst same
    simp [HoldsTicket, idle]
  · simp [HoldsTicket, same]

/-- `Semaphore::wait` and the other calls never return `EINTR`. -/
theorem wait_never_eintr (transition : Transition k k' output) (thread : Fin n) :
    output ≠ some (.returned thread EINTR) := by
  cases transition with
  | take | refuse => simp [EINTR, EAGAIN]
  | resume =>
      rename_i other _ _ _
      cases (k.threads other).unblockReason <;> simp [blockResult, EINTR, ETIMEDOUT]
  | _ => simp

/-- No call of the semaphore returns `EINTR`, so the loop of `join` returns what its first call
returned, whatever its bound. -/
theorem retry_interrupted_step (k : Kernel n) (caller : Fin n) (event : Event n) (fuel : Nat) :
    retryInterrupted caller fuel (k.step event) = k.step event := by
  have never := wait_never_eintr (step_transition k event)
  generalize k.step event = attempt at never ⊢
  rcases attempt with ⟨k', _ | _ | ⟨thread, ret⟩⟩ <;> cases fuel <;> try rfl
  have ne : ret ≠ EINTR := fun same => never thread (by rw [same])
  simp [retryInterrupted, ne]

theorem successful_posts_of_not_posted (notPosted : ∀ ret, output ≠ some (.posted ret)) :
    successfulPosts output.toList = 0 := by
  rcases output with _ | ⟨ret⟩ | _
  · rfl
  · exact absurd rfl (notPosted ret)
  · rfl

theorem step_wait_of_ne_zero {caller : Fin n} (idle : k.calls caller = .idle)
    (nonzero : k.semaphore.value ≠ 0) : (k.step (.wait caller)).2 = some (.returned caller 0) := by
  simp [step, call, idle, wait, tryWaitOrBlock, Semaphore.try_wait_internal_of_ne nonzero, EAGAIN]

theorem TicketEffect.of_not_posted (effect : TicketEffect k k' output)
    (notPosted : ∀ ret, output ≠ some (.posted ret)) :
    k'.semaphore.value.toNat ≤ k.semaphore.value.toNat ∧
      ∀ thread, k'.HoldsTicket thread → k.HoldsTicket thread := by
  cases effect with
  | silent value same | error _ value same _ => exact ⟨by rw [value], fun thread => (same thread).1⟩
  | increment | handOver => exact absurd rfl (notPosted 0)
  | take down same => exact ⟨by omega, fun thread => (same thread).1⟩
  | @redeem thread value _ after agree =>
      refine ⟨by rw [value], fun other holds => ?_⟩
      have ne : other ≠ thread := fun here => after (here ▸ holds)
      exact (agree other ne).1 holds

theorem TicketEffect.zero_return (effect : TicketEffect k k' output) {thread : Fin n}
    (zero : output = some (.returned thread 0)) :
    k.HoldsTicket thread ∨ k.semaphore.value ≠ 0 := by
  cases effect with
  | silent | increment | handOver => cases zero
  | error codes => cases zero; exact absurd rfl (error_ret_ne_zero codes)
  | take down => exact .inr fun none => by rw [none] at down; simp at down
  | redeem _ holds => cases zero; exact .inl holds

theorem TicketEffect.value_le_succ (effect : TicketEffect k k' output) :
    k'.semaphore.value.toNat ≤ k.semaphore.value.toNat + 1 := by
  cases effect with
  | silent value | error _ value | handOver _ value | redeem value => rw [value]; omega
  | increment up | take up => omega

theorem post_calls (k : Kernel n) : k.post.2.calls = k.calls := by
  unfold post
  split_ifs
  · rfl
  · split <;> rfl

theorem post_ret_of_not_full (notFull : k.semaphore.value ≠ k.semaphore.maxValue) :
    k.post.1 = 0 := by
  unfold post
  rw [if_neg notFull]
  split <;> rfl

theorem step_wait_calls (k : Kernel n) {caller thread : Fin n} (other : thread ≠ caller) :
    (k.step (.wait caller)).1.calls thread = k.calls thread := by
  simp only [step, call, wait, tryWaitOrBlock]
  split_ifs <;> simp [block, other]

theorem step_resume_calls (k : Kernel n) (caller : Fin n) {thread : Fin n}
    (idle : k.calls thread = .idle) : (k.step (.resume caller)).1.calls thread = .idle := by
  simp only [step, resume]
  split
  · split_ifs
    · by_cases same : thread = caller
      · subst same
        simp
      · simpa [same] using idle
    · exact idle
  · exact idle

theorem step_wait_not_posted (k : Kernel n) (caller : Fin n) (ret : Nat) :
    (k.step (.wait caller)).2 ≠ some (.posted ret) := by
  simp only [step, call]
  split_ifs
  · cases (k.wait caller).1 <;> simp
  · simp

theorem step_resume_not_posted (k : Kernel n) (caller : Fin n) (ret : Nat) :
    (k.step (.resume caller)).2 ≠ some (.posted ret) := by
  simp only [step, resume]
  split
  · split_ifs <;> simp
  · simp

/-- No call waits with a time point. -/
def UntimedCalls (k : Kernel n) : Prop :=
  ∀ thread timePoint, k.calls thread ≠ .blocked (some timePoint)

theorem UntimedWoken.set_state (woken : k.UntimedWoken) {thread : Fin n}
    (idle : k.calls thread = .idle) (state : State) :
    ({ k with threads := Function.update k.threads thread { k.threads thread with state := state } }
      : Kernel n).UntimedWoken := by
  intro other blocked
  by_cases same : other = thread
  · subst same
    simp [idle] at blocked
  · simpa [same] using woken other blocked

theorem step_wait_untimed_calls (untimed : k.UntimedCalls) (caller : Fin n) :
    (k.step (.wait caller)).1.UntimedCalls := by
  intro thread timePoint
  by_cases same : thread = caller
  · subst same
    simp only [step, call, wait, tryWaitOrBlock]
    split_ifs <;> simp [block, untimed thread timePoint]
  · rw [step_wait_calls k same]
    exact untimed thread timePoint

theorem step_resume_untimed_calls (untimed : k.UntimedCalls) (caller : Fin n) :
    (k.step (.resume caller)).1.UntimedCalls := by
  intro thread timePoint
  simp only [step, resume]
  split
  · split_ifs
    · by_cases same : thread = caller
      · subst same
        simp
      · simpa [same] using untimed thread timePoint
    · exact untimed thread timePoint
  · exact untimed thread timePoint

end Kernel

namespace ThreadWorld

variable (owner : Fin n)

/-- What holds of every reachable world of the thread `owner`, read on its join semaphore `k` and
the phase of its runner. -/
structure JoinInvariant (k : Kernel n) (phase : RunnerPhase) : Prop where
  kernel : k.Invariant
  maxValue : k.semaphore.maxValue = Semaphore.defaultMaxValue
  selfIdle : k.calls owner = .idle
  beforeRemoval : phase ≠ .removed → k.semaphore.value = 0 ∧ ∀ thread, ¬k.HoldsTicket thread
  atMostOne : k.semaphore.value.toNat ≤ 1

variable {owner} {k k' : Kernel n} {phase : RunnerPhase} {w : ThreadWorld n}

theorem JoinInvariant.kernel_step (inv : JoinInvariant owner k phase) {output : Option (Output n)}
    (transition : Kernel.Transition k k' output) (notPosted : ∀ ret, output ≠ some (.posted ret))
    (selfIdle : k'.calls owner = .idle) : JoinInvariant owner k' phase := by
  obtain ⟨down, fewer⟩ := (transition.ticket_effect inv.kernel).of_not_posted notPosted
  refine ⟨transition.invariant inv.kernel, transition.max_value.trans inv.maxValue, selfIdle,
    fun notRemoved => ?_, le_trans down inv.atMostOne⟩
  obtain ⟨zero, none⟩ := inv.beforeRemoval notRemoved
  refine ⟨BitVec.eq_of_toNat_eq ?_, fun thread holds => none thread (fewer thread holds)⟩
  rw [zero] at down
  exact Nat.le_zero.1 down

theorem JoinInvariant.set_state (inv : JoinInvariant owner k phase) (state : State) :
    JoinInvariant owner
      { k with threads := Function.update k.threads owner { k.threads owner with state := state } }
      phase where
  kernel := inv.kernel.set_state inv.selfIdle state
  maxValue := inv.maxValue
  selfIdle := inv.selfIdle
  beforeRemoval notRemoved := ⟨(inv.beforeRemoval notRemoved).1, fun thread holds =>
    (inv.beforeRemoval notRemoved).2 thread
      ((Kernel.set_state_same_holders inv.selfIdle state thread).1 holds)⟩
  atMostOne := inv.atMostOne

theorem JoinInvariant.remove (inv : JoinInvariant owner w.joinSemaphore w.phase)
    (returned : w.phase = .returned) :
    JoinInvariant owner (w.remove owner).1.joinSemaphore .removed ∧
      (w.remove owner).2 = [.posted 0] := by
  have set := inv.set_state .terminated
  have transition := Kernel.post_transition (w.setState owner .terminated).joinSemaphore
  have zero := (inv.beforeRemoval (by rw [returned]; decide)).1
  have notFull : (w.setState owner .terminated).joinSemaphore.semaphore.value ≠
      (w.setState owner .terminated).joinSemaphore.semaphore.maxValue := by
    show w.joinSemaphore.semaphore.value ≠ w.joinSemaphore.semaphore.maxValue
    rw [zero, inv.maxValue]
    decide
  refine ⟨⟨transition.invariant set.kernel, transition.max_value.trans set.maxValue, ?_,
    fun notRemoved => absurd rfl notRemoved, ?_⟩, by simp [ThreadWorld.remove, terminationHook,
      Kernel.post_ret_of_not_full notFull]⟩
  · show (w.setState owner .terminated).joinSemaphore.post.2.calls owner = .idle
    rw [Kernel.post_calls]
    exact set.selfIdle
  · have up := (transition.ticket_effect set.kernel).value_le_succ
    have start : (w.setState owner .terminated).joinSemaphore.semaphore.value.toNat = 0 := by
      show w.joinSemaphore.semaphore.value.toNat = 0
      rw [zero]
      rfl
    exact le_trans up (by rw [start])

theorem JoinInvariant.step (inv : JoinInvariant owner w.joinSemaphore w.phase)
    (event : ThreadEvent n) :
    JoinInvariant owner (w.step owner event).1.joinSemaphore (w.step owner event).1.phase := by
  cases event with
  | startCheck caller =>
      simp only [ThreadWorld.step, startCheck]
      split_ifs <;> exact inv
  | startAdd caller =>
      simp only [ThreadWorld.step, startAdd, add]
      split_ifs
      · exact inv.set_state .runnable
      all_goals exact inv
  | join caller =>
      simp only [ThreadWorld.step, join]
      split_ifs with free same
      · exact inv
      · exact inv.kernel_step (Kernel.step_transition _ _) (Kernel.step_wait_not_posted _ _)
          ((Kernel.step_wait_calls _ fun here => same here.symm).trans inv.selfIdle)
      · exact inv
  | resume caller =>
      exact inv.kernel_step (Kernel.step_transition _ _) (Kernel.step_resume_not_posted _ _)
        (Kernel.step_resume_calls _ _ inv.selfIdle)
  | runReturns =>
      simp only [ThreadWorld.step]
      split_ifs with guard
      · exact ⟨inv.kernel, inv.maxValue, inv.selfIdle,
          fun _ => inv.beforeRemoval (by rw [guard.2]; decide), inv.atMostOne⟩
      · exact inv
  | remove =>
      simp only [ThreadWorld.step]
      split_ifs with guard
      · exact (inv.remove guard.2).1
      · exact inv

theorem JoinInvariant.run (inv : JoinInvariant owner w.joinSemaphore w.phase)
    (events : List (ThreadEvent n)) :
    JoinInvariant owner (w.run owner events).1.joinSemaphore (w.run owner events).1.phase := by
  induction events generalizing w with
  | nil => exact inv
  | cons event events ih => exact ih (inv.step event)

theorem init_join_value (threads : Fin n → ThreadControlBlock) :
    (init owner threads).joinSemaphore.semaphore.value = 0 :=
  BitVec.eq_of_toNat_eq
    ((Semaphore.create_value_to_nat (n := n) 0 Semaphore.defaultMaxValue).trans (Nat.zero_min _))

theorem init_join_invariant (threads : Fin n → ThreadControlBlock) :
    JoinInvariant owner (init owner threads).joinSemaphore (init owner threads).phase where
  kernel := Kernel.init_invariant _ _ _ _
  maxValue := rfl
  selfIdle := rfl
  beforeRemoval _ := ⟨init_join_value threads, fun _ holds => holds.1 rfl⟩
  atMostOne := by rw [init_join_value]; decide

/-! ## The post and the returns of `join` -/

def ThreadOutput.isPost : ThreadOutput n → Bool
  | .posted _ => true
  | _ => false

/-- `1` once `Scheduler::remove` has run, `0` before. -/
def removedCount (w : ThreadWorld n) : Nat :=
  if w.phase = .removed then 1 else 0

theorem mem_join_result {caller other : Fin n} {ret : Nat} {output : Option (Output n)}
    (member : ThreadOutput.joined other ret ∈ joinResult caller output) :
    ∃ thread, output = some (.returned thread ret) := by
  rcases output with _ | _ | ⟨thread, result⟩ <;> simp [joinResult] at member
  exact ⟨thread, by rw [member.2]⟩

theorem not_posted_join_result {caller : Fin n} {ret : Nat} {output : Option (Output n)} :
    ThreadOutput.posted ret ∉ joinResult caller output := by
  rcases output with _ | _ | _ <;> simp [joinResult]

@[simp] theorem join_result_post_count (caller : Fin n) (output : Option (Output n)) :
    (joinResult caller output).countP ThreadOutput.isPost = 0 := by
  rcases output with _ | _ | _ <;> simp [joinResult, ThreadOutput.isPost]

theorem step_posted (w : ThreadWorld n) (event : ThreadEvent n) {ret : Nat}
    (posted : ThreadOutput.posted ret ∈ (w.step owner event).2) :
    event = .remove ∧ w.phase = .returned := by
  cases event with
  | remove =>
      simp only [ThreadWorld.step] at posted
      split_ifs at posted with guard
      · exact ⟨rfl, guard.2⟩
      · cases posted
  | startCheck | startAdd | runReturns =>
      simp only [ThreadWorld.step, startCheck, startAdd] at posted
      split_ifs at posted <;> simp at posted
  | join caller =>
      simp only [ThreadWorld.step, join] at posted
      split_ifs at posted
      · simp at posted
      · exact absurd posted not_posted_join_result
      · cases posted
  | resume caller => exact absurd posted not_posted_join_result

theorem step_post_count (w : ThreadWorld n) (event : ThreadEvent n) :
    ((w.step owner event).2.countP ThreadOutput.isPost) + w.removedCount =
      (w.step owner event).1.removedCount := by
  cases event with
  | remove =>
      simp only [ThreadWorld.step]
      split_ifs with guard
      · simp [ThreadWorld.remove, terminationHook, removedCount, guard.2, ThreadOutput.isPost]
      · simp
  | runReturns =>
      simp only [ThreadWorld.step]
      split_ifs with guard
      · simp [removedCount, guard.2]
      · simp
  | startCheck | startAdd =>
      simp only [ThreadWorld.step, startCheck, startAdd, add]
      split_ifs <;> simp [ThreadOutput.isPost, removedCount, setState]
  | join caller =>
      simp only [ThreadWorld.step, join]
      split_ifs <;> simp [ThreadOutput.isPost, removedCount]
  | resume caller => simp [ThreadWorld.step, resume, removedCount]

theorem run_post_count (w : ThreadWorld n) (events : List (ThreadEvent n)) :
    ((w.run owner events).2.countP ThreadOutput.isPost) + w.removedCount =
      (w.run owner events).1.removedCount := by
  induction events generalizing w with
  | nil => simp [ThreadWorld.run]
  | cons event events ih =>
      have first : ((w.step owner event).2.countP ThreadOutput.isPost) + w.removedCount =
          (w.step owner event).1.removedCount := step_post_count w event
      have rest := ih (w.step owner event).1
      simp only [ThreadWorld.run, List.countP_append]
      omega

theorem JoinInvariant.posted_zero (inv : JoinInvariant owner w.joinSemaphore w.phase)
    {event : ThreadEvent n} {ret : Nat}
    (posted : ThreadOutput.posted ret ∈ (w.step owner event).2) : ret = 0 := by
  obtain ⟨rfl, _⟩ := step_posted w _ posted
  simp only [ThreadWorld.step] at posted
  split_ifs at posted with guard
  · rw [(inv.remove guard.2).2] at posted
    simpa using posted
  · cases posted

theorem JoinInvariant.run_posted_zero (inv : JoinInvariant owner w.joinSemaphore w.phase)
    (events : List (ThreadEvent n)) {ret : Nat}
    (posted : ThreadOutput.posted ret ∈ (w.run owner events).2) : ret = 0 := by
  induction events generalizing w with
  | nil => cases posted
  | cons event events ih =>
      rcases List.mem_append.1 posted with first | rest
      · exact inv.posted_zero first
      · exact ih (inv.step event) rest

theorem JoinInvariant.joined_zero (inv : JoinInvariant owner w.joinSemaphore w.phase)
    {event : ThreadEvent n} {caller : Fin n}
    (joined : ThreadOutput.joined caller 0 ∈ (w.step owner event).2) : w.phase = .removed := by
  by_contra notRemoved
  obtain ⟨zero, none⟩ := inv.beforeRemoval notRemoved
  have noZero : ∀ (semaphoreEvent : Event n) (thread : Fin n),
      (w.joinSemaphore.step semaphoreEvent).2 ≠ some (.returned thread 0) :=
    fun semaphoreEvent thread returned =>
      (((Kernel.step_transition _ semaphoreEvent).ticket_effect inv.kernel).zero_return
        returned).elim (none thread) fun nonzero => nonzero zero
  cases event with
  | join other =>
      simp only [ThreadWorld.step, join] at joined
      split_ifs at joined
      · simp [EDEADLK] at joined
      · obtain ⟨thread, returned⟩ := mem_join_result joined
        exact noZero _ thread returned
      · cases joined
  | resume other =>
      obtain ⟨thread, returned⟩ := mem_join_result joined
      exact noZero _ thread returned
  | startCheck | startAdd | runReturns | remove =>
      simp only [ThreadWorld.step, startCheck, startAdd, ThreadWorld.remove, terminationHook]
        at joined
      split_ifs at joined <;> simp at joined

/-- Along any interleaving of `start`, `join` and the thread's own `threadRunner`: the join
semaphore is posted at most once, only by the `remove` that follows the return of `run()`, and
that post returns `0`; its value never exceeds one; a `join` returns `0` only after `remove`; and
`join` called by the thread itself returns `EDEADLK` and changes nothing. -/
theorem join_semaphore_posted_once (threads : Fin n → ThreadControlBlock) (owner : Fin n)
    (events : List (ThreadEvent n)) :
    let run := (init owner threads).run owner events
    run.2.countP ThreadOutput.isPost ≤ 1 ∧
      (∀ ret, ThreadOutput.posted ret ∈ run.2 → ret = 0) ∧
      run.1.joinSemaphore.semaphore.value.toNat ≤ 1 ∧
      (∀ event ret, ThreadOutput.posted ret ∈ (run.1.step owner event).2 →
        event = .remove ∧ run.1.phase = .returned) ∧
      (∀ event caller, ThreadOutput.joined caller 0 ∈ (run.1.step owner event).2 →
        run.1.phase = .removed) ∧
      (run.1.Free owner → run.1.step owner (.join owner) = (run.1, [.joined owner EDEADLK])) := by
  intro run
  have start : JoinInvariant owner (init owner threads).joinSemaphore (init owner threads).phase :=
    init_join_invariant threads
  have inv := start.run events
  have count : (((init owner threads).run owner events).2.countP ThreadOutput.isPost) +
      (init owner threads).removedCount = ((init owner threads).run owner events).1.removedCount :=
    run_post_count _ events
  refine ⟨?_, fun _ posted => start.run_posted_zero events posted, inv.atMostOne,
    fun event _ posted => step_posted _ event posted, fun _ _ joined => inv.joined_zero joined,
    fun free => by simp [ThreadWorld.step, free, join]⟩
  have bound : ((init owner threads).run owner events).1.removedCount ≤ 1 := by
    unfold removedCount
    split_ifs <;> omega
  have initial : (init owner threads).removedCount = 0 := rfl
  show ((init owner threads).run owner events).2.countP ThreadOutput.isPost ≤ 1
  omega

/-! ## What `join` returns -/

/-- What the join semaphore keeps over every run besides `JoinInvariant`: its calls are the
`wait`s of `join`, so none is timed, and a joiner runnable again was unblocked by `post`. -/
structure JoinWaits (k : Kernel n) : Prop where
  untimed : k.UntimedCalls
  woken : k.UntimedWoken

theorem JoinWaits.set_state (waits : JoinWaits k) (inv : JoinInvariant owner k phase)
    (state : State) :
    JoinWaits
      { k with threads := Function.update k.threads owner { k.threads owner with state := state } } :=
  ⟨waits.untimed, waits.woken.set_state inv.selfIdle state⟩

theorem JoinWaits.step (waits : JoinWaits w.joinSemaphore)
    (inv : JoinInvariant owner w.joinSemaphore w.phase) (event : ThreadEvent n) :
    JoinWaits (w.step owner event).1.joinSemaphore := by
  cases event with
  | startCheck caller =>
      simp only [ThreadWorld.step, startCheck]
      split_ifs <;> exact waits
  | startAdd caller =>
      simp only [ThreadWorld.step, startAdd, add]
      split_ifs
      · exact waits.set_state inv .runnable
      all_goals exact waits
  | join caller =>
      simp only [ThreadWorld.step, join]
      split_ifs
      · exact waits
      · exact ⟨Kernel.step_wait_untimed_calls waits.untimed caller, waits.woken.step _⟩
      · exact waits
  | resume caller =>
      exact ⟨Kernel.step_resume_untimed_calls waits.untimed caller, waits.woken.step _⟩
  | runReturns =>
      simp only [ThreadWorld.step]
      split_ifs <;> exact waits
  | remove =>
      simp only [ThreadWorld.step]
      split_ifs
      · have set := waits.set_state inv .terminated
        show JoinWaits (w.setState owner .terminated).joinSemaphore.post.2
        refine ⟨fun thread timePoint => ?_, Kernel.post_untimed_woken set.woken⟩
        rw [Kernel.post_calls]
        exact set.untimed thread timePoint
      · exact waits

theorem JoinWaits.step_joined (waits : JoinWaits w.joinSemaphore) {event : ThreadEvent n}
    {caller : Fin n} {ret : Nat} (joined : ThreadOutput.joined caller ret ∈ (w.step owner event).2) :
    ret = 0 ∨ ret = EDEADLK ∧ caller = owner := by
  cases event with
  | join other =>
      simp only [ThreadWorld.step, join] at joined
      split_ifs at joined with free same
      · simp only [List.mem_singleton, ThreadOutput.joined.injEq] at joined
        exact .inr ⟨joined.2, joined.1.trans same⟩
      · obtain ⟨thread, returned⟩ := mem_join_result joined
        rcases waits.woken.step_returned returned with zero | ⟨-, wrong, -⟩ | ⟨-, wrong, -⟩
        · exact .inl zero
        all_goals cases wrong
      · cases joined
  | resume other =>
      obtain ⟨thread, returned⟩ := mem_join_result joined
      rcases waits.woken.step_returned returned with
        zero | ⟨-, wrong, -⟩ | ⟨-, -, ⟨timePoint, timed⟩, -⟩
      · exact .inl zero
      · cases wrong
      · exact absurd timed (waits.untimed thread timePoint)
  | startCheck | startAdd | runReturns | remove =>
      simp only [ThreadWorld.step, startCheck, startAdd, ThreadWorld.remove, terminationHook]
        at joined
      split_ifs at joined <;> simp at joined

theorem JoinWaits.run_joined (waits : JoinWaits w.joinSemaphore)
    (inv : JoinInvariant owner w.joinSemaphore w.phase) (events : List (ThreadEvent n))
    {caller : Fin n} {ret : Nat} (joined : ThreadOutput.joined caller ret ∈ (w.run owner events).2) :
    ret = 0 ∨ ret = EDEADLK ∧ caller = owner := by
  induction events generalizing w with
  | nil => cases joined
  | cons event events ih =>
      rcases List.mem_append.1 joined with first | rest
      · exact waits.step_joined first
      · exact ih (waits.step inv event) (inv.step event) rest

theorem init_join_waits (threads : Fin n → ThreadControlBlock) :
    JoinWaits (init owner threads).joinSemaphore :=
  ⟨fun _ _ => by simp [init, Kernel.init], Kernel.init_untimed_woken _ _ _ _⟩

/-! ## The one post releases one joiner -/

/-- `join` as the source writes it, its `EINTR` loop bounded by any `fuel`, is the model's `join`:
the loop ends after its first call of `joinSemaphore_.wait()`, and after the call's resumption. -/
theorem join_eq_retry_interrupted (w : ThreadWorld n) (caller : Fin n) (fuel : Nat) :
    w.join owner caller =
      (if caller = owner then (w, [.joined caller EDEADLK])
      else
        ({ w with joinSemaphore :=
            (Kernel.retryInterrupted caller fuel (w.joinSemaphore.step (.wait caller))).1 },
          joinResult caller
            (Kernel.retryInterrupted caller fuel (w.joinSemaphore.step (.wait caller))).2)) ∧
    w.resume caller =
      ({ w with joinSemaphore :=
          (Kernel.retryInterrupted caller fuel (w.joinSemaphore.step (.resume caller))).1 },
        joinResult caller
          (Kernel.retryInterrupted caller fuel (w.joinSemaphore.step (.resume caller))).2) := by
  simp only [join, resume, Kernel.retry_interrupted_step, and_self]

def ThreadOutput.isZeroJoin : ThreadOutput n → Bool
  | .joined _ ret => ret == 0
  | _ => false

theorem join_result_zero_joins (caller : Fin n) (output : Option (Output n)) :
    (joinResult caller output).countP ThreadOutput.isZeroJoin = successfulWaits output.toList := by
  rcases output with _ | _ | ⟨thread, ret⟩
  · rfl
  · rfl
  · cases ret <;> rfl

theorem call_balance (inv : k.Invariant) (caller : Fin n) {event : Event n}
    (notPosted : ∀ ret, (k.step event).2 ≠ some (.posted ret)) :
    (joinResult caller (k.step event).2).countP ThreadOutput.isZeroJoin + (k.step event).1.tickets +
        (k.step event).1.semaphore.value.toNat = k.tickets + k.semaphore.value.toNat := by
  have balance := ((Kernel.step_transition k event).ticket_effect inv).balance
  rw [Kernel.successful_posts_of_not_posted notPosted] at balance
  rw [join_result_zero_joins]
  omega

theorem JoinInvariant.step_balance (inv : JoinInvariant owner w.joinSemaphore w.phase)
    (event : ThreadEvent n) :
    (w.step owner event).2.countP ThreadOutput.isZeroJoin +
        (w.step owner event).1.joinSemaphore.tickets +
        (w.step owner event).1.joinSemaphore.semaphore.value.toNat =
      w.joinSemaphore.tickets + w.joinSemaphore.semaphore.value.toNat +
        (w.step owner event).2.countP ThreadOutput.isPost := by
  have sameTickets := fun state => Kernel.tickets_of_same_holders
    (Kernel.set_state_same_holders inv.selfIdle state)
  cases event with
  | startCheck caller =>
      simp only [ThreadWorld.step, startCheck]
      split_ifs <;> simp [ThreadOutput.isZeroJoin, ThreadOutput.isPost]
  | startAdd caller =>
      simp only [ThreadWorld.step, startAdd, add]
      split_ifs
      · simp [ThreadOutput.isZeroJoin, ThreadOutput.isPost, setState, sameTickets]
      all_goals simp [ThreadOutput.isZeroJoin, ThreadOutput.isPost]
  | join caller =>
      simp only [ThreadWorld.step, join]
      split_ifs
      · simp [ThreadOutput.isZeroJoin, ThreadOutput.isPost, EDEADLK]
      · simpa using call_balance inv.kernel caller (Kernel.step_wait_not_posted _ _)
      · simp
  | resume caller =>
      simpa [ThreadWorld.step, resume] using
        call_balance inv.kernel caller (Kernel.step_resume_not_posted _ _)
  | runReturns =>
      simp only [ThreadWorld.step]
      split_ifs <;> simp
  | remove =>
      simp only [ThreadWorld.step]
      split_ifs with guard
      · have set := inv.set_state .terminated
        have balance := ((Kernel.post_transition
          (w.setState owner .terminated).joinSemaphore).ticket_effect set.kernel).balance
        have posted := (inv.remove guard.2).2
        simp only [ThreadWorld.remove, terminationHook, List.cons.injEq,
          ThreadOutput.posted.injEq, and_true] at posted ⊢
        rw [posted] at balance ⊢
        simpa [ThreadOutput.isZeroJoin, ThreadOutput.isPost, setState, sameTickets] using balance
      · simp

theorem JoinInvariant.run_balance (inv : JoinInvariant owner w.joinSemaphore w.phase)
    (events : List (ThreadEvent n)) :
    (w.run owner events).2.countP ThreadOutput.isZeroJoin +
        (w.run owner events).1.joinSemaphore.tickets +
        (w.run owner events).1.joinSemaphore.semaphore.value.toNat =
      w.joinSemaphore.tickets + w.joinSemaphore.semaphore.value.toNat +
        (w.run owner events).2.countP ThreadOutput.isPost := by
  induction events generalizing w with
  | nil => simp [ThreadWorld.run]
  | cons event events ih =>
      have first := inv.step_balance event
      have rest := ih (inv.step event)
      simp only [ThreadWorld.run, List.countP_append]
      omega

/-- Along any interleaving of `start`, `join` and the thread's own `threadRunner`: every `join`
that returns gives `0` or `EDEADLK`, and `EDEADLK` only to the thread itself. The one post of
`terminationHook` is neither lost nor doubled: the joins that returned `0`, the joiners it
unblocked that have not returned yet, and the value add up to one once `remove` has run and to
zero before. A `join` of another thread returns `0` at once while the value is nonzero, and an
unblocked joiner returns `0` when it runs; but at most one `join` of the run returns `0`, so a
second thread that joins blocks and never returns. -/
theorem join_releases_one_joiner (threads : Fin n → ThreadControlBlock) (owner : Fin n)
    (events : List (ThreadEvent n)) :
    let run := (init owner threads).run owner events
    (∀ caller ret, ThreadOutput.joined caller ret ∈ run.2 →
      ret = 0 ∨ ret = EDEADLK ∧ caller = owner) ∧
    run.2.countP ThreadOutput.isZeroJoin + run.1.joinSemaphore.tickets +
        run.1.joinSemaphore.semaphore.value.toNat = run.1.removedCount ∧
    run.2.countP ThreadOutput.isZeroJoin ≤ 1 ∧
    (∀ caller, run.1.Free caller → caller ≠ owner → run.1.joinSemaphore.semaphore.value ≠ 0 →
      (run.1.step owner (.join caller)).2 = [.joined caller 0]) ∧
    (∀ caller, run.1.joinSemaphore.HoldsTicket caller →
      (run.1.step owner (.resume caller)).2 = [.joined caller 0]) := by
  intro run
  have start : JoinInvariant owner (init owner threads).joinSemaphore (init owner threads).phase :=
    init_join_invariant threads
  have balance : run.2.countP ThreadOutput.isZeroJoin + run.1.joinSemaphore.tickets +
      run.1.joinSemaphore.semaphore.value.toNat = (init owner threads).joinSemaphore.tickets +
        (init owner threads).joinSemaphore.semaphore.value.toNat +
        run.2.countP ThreadOutput.isPost := start.run_balance events
  have posts : run.2.countP ThreadOutput.isPost + (init owner threads).removedCount =
      run.1.removedCount := run_post_count _ events
  have initial : (init owner threads).joinSemaphore.tickets +
      (init owner threads).joinSemaphore.semaphore.value.toNat + (init owner threads).removedCount =
        0 := by
    rw [init_join_value]
    simp [init, Kernel.init_tickets, removedCount]
  have once : run.1.removedCount ≤ 1 := by
    unfold removedCount
    split_ifs <;> omega
  have accounted : run.2.countP ThreadOutput.isZeroJoin + run.1.joinSemaphore.tickets +
      run.1.joinSemaphore.semaphore.value.toNat = run.1.removedCount := by
    omega
  refine ⟨fun _ _ joined => (init_join_waits threads).run_joined start events joined, accounted,
    by omega, fun caller free other nonzero => ?_, fun caller holds => ?_⟩
  · simp [ThreadWorld.step, free, join, other,
      Kernel.step_wait_of_ne_zero free.2.1 nonzero, joinResult]
  · simp [ThreadWorld.step, resume, Kernel.step, Kernel.resume_of_holds_ticket holds, joinResult]

theorem second_joiner_stays_blocked :
    let run := (init 2 startRaceThreads).run 2
      [.startCheck 0, .startAdd 0, .join 0, .join 1, .runReturns, .remove, .resume 0, .resume 1]
    ThreadOutput.joined 0 0 ∈ run.2 ∧ run.1.joinSemaphore.calls 1 = .blocked none ∧
      run.2.countP ThreadOutput.isZeroJoin ≤ 1 :=
  ⟨by decide, by decide, (join_releases_one_joiner startRaceThreads 2 _).2.2.1⟩

end ThreadWorld

end Distortos
