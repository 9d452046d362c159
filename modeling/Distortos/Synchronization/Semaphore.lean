import Distortos.Scheduler.ThreadControlBlockList
import Mathlib.Logic.Function.Basic

/-!
# Semaphore

`Semaphore.cpp` over a kernel of `n` threads that call one semaphore, next to the interrupts
that post it and the tick that expires its timed waiters. Every public function of the source runs
under `InterruptMaskingLock`, so each is one atomic step here; the steps interleave in any order.

A thread that blocks stays inside `Scheduler::block` or `blockUntil` until it is unblocked and
the scheduler runs it again, and only then does its call return; `resume` is that second half.
The scheduler's side (`block`, `blockUntil`, `unblock`, the software timer of `blockUntil`,
`ThreadControlBlock::setPriority` and `updateBoostedPriority`) is not under src/ and is modelled
from the spec: an unblocking by `post` returns `0`, an expiry returns `ETIMEDOUT`, and a timer
that fires after its thread was unblocked does nothing.
-/

namespace Distortos

set_option autoImplicit false

open Scheduler

/-- `Semaphore::Value`: `unsigned int`, 32 bits on the ARMv7-M port. -/
abbrev Semaphore.Value := BitVec 32

/-- The blocked list holds thread indices in list order. -/
structure Semaphore (n : Nat) where
  blockedList : List (Fin n)
  value : Semaphore.Value
  maxValue : Semaphore.Value

namespace Semaphore

variable {n : Nat}

/-- `Semaphore::Semaphore(value, maxValue)`: the value is clamped to the maximum. -/
def create (value maxValue : Value) : Semaphore n :=
  { blockedList := []
    value := if value ≤ maxValue then value else maxValue
    maxValue := maxValue }

/-- `Semaphore::tryWaitInternal`. -/
def tryWaitInternal (semaphore : Semaphore n) : Nat × Semaphore n :=
  if semaphore.value = 0 then (EAGAIN, semaphore)
  else (0, { semaphore with value := semaphore.value - 1 })

theorem try_wait_internal_of_zero {semaphore : Semaphore n} (zero : semaphore.value = 0) :
    semaphore.tryWaitInternal = (EAGAIN, semaphore) := if_pos zero

theorem try_wait_internal_of_ne {semaphore : Semaphore n} (nonzero : semaphore.value ≠ 0) :
    semaphore.tryWaitInternal = (0, { semaphore with value := semaphore.value - 1 }) :=
  if_neg nonzero

theorem create_value_to_nat (value maxValue : Value) :
    (create value maxValue : Semaphore n).value.toNat = min value.toNat maxValue.toNat := by
  unfold create
  split_ifs with le
  · exact (min_eq_left (BitVec.le_def.1 le)).symm
  · exact (min_eq_right (le_of_lt (BitVec.lt_def.1 (BitVec.not_le.1 le)))).symm

end Semaphore

/-- Where a thread stands in its semaphore calls: outside them, or inside the
`Scheduler::block` of `wait` or the `Scheduler::blockUntil` of `tryWaitUntil` (with the time
point of its software timer). -/
inductive Call where
  | idle
  | blocked (timePoint : Option TimePoint)
  deriving DecidableEq, Repr

/-- One semaphore, the `n` threads that call it, and the tick counter. -/
structure Kernel (n : Nat) where
  now : TimePoint
  threads : Fin n → ThreadControlBlock
  calls : Fin n → Call
  semaphore : Semaphore n

/-- The calls of the semaphore and of the scheduler that can happen, in any interleaving.
`resume` is the scheduler running an unblocked waiter, `expire` the software timer of a timed
waiter firing, `tick` the tick interrupt. -/
inductive Event (n : Nat) where
  | post
  | tryWait (thread : Fin n)
  | tryWaitFor (thread : Fin n) (duration : Duration)
  | tryWaitUntil (thread : Fin n) (timePoint : TimePoint)
  | wait (thread : Fin n)
  | resume (thread : Fin n)
  | tick
  | expire (thread : Fin n)
  | setPriority (thread : Fin n) (priority : Nat) (alwaysBehind : Bool)
  | updateBoostedPriority (thread : Fin n) (boostedPriority : Nat)
  deriving DecidableEq, Repr

/-- What a step returns to its caller: `post`'s result, or the result of a wait-family call of
`thread`. -/
inductive Output (n : Nat) where
  | posted (ret : Nat)
  | returned (thread : Fin n) (ret : Nat)
  deriving DecidableEq, Repr

namespace Kernel

variable {n : Nat}

/-- The effective priority of every thread, the key of the blocked list. -/
def priorityOf (threads : Fin n → ThreadControlBlock) (thread : Fin n) : Nat :=
  (threads thread).getEffectivePriority

theorem priority_of_update (threads : Fin n → ThreadControlBlock) (thread other : Fin n)
    (tcb : ThreadControlBlock) :
    priorityOf (Function.update threads thread tcb) other =
      if other = thread then tcb.getEffectivePriority else priorityOf threads other := by
  by_cases same : other = thread
  · subst same
    simp [priorityOf]
  · simp [priorityOf, same]

theorem priority_of_update_of_same {threads : Fin n → ThreadControlBlock} {thread : Fin n}
    {tcb : ThreadControlBlock} (same : tcb.getEffectivePriority = priorityOf threads thread) :
    priorityOf (Function.update threads thread tcb) = priorityOf threads := by
  funext other
  rw [priority_of_update]
  split_ifs with here
  · rw [here, same]
  · rfl

/-- Modelled from the spec: `Scheduler::block(blockedList_)` (`timePoint = none`) and
`Scheduler::blockUntil(blockedList_, timePoint)`. The thread enters the blocked list at its
effective priority with the list's state `BlockedOnSemaphore`; `blockUntil` also arms a software
timer for `timePoint`. -/
def block (k : Kernel n) (thread : Fin n) (timePoint : Option TimePoint) : Kernel n :=
  { k with
    threads := Function.update k.threads thread { k.threads thread with state := .blockedOnSemaphore }
    calls := Function.update k.calls thread (.blocked timePoint)
    semaphore := { k.semaphore with
      blockedList := sortedInsert (priorityOf k.threads) (priorityOf k.threads thread) thread
        k.semaphore.blockedList } }

/-- Modelled from the spec: `Scheduler::unblock`. The thread leaves the blocked list, becomes
runnable and records `reason` (`ThreadControlBlock::unblockHook`). -/
def unblock (k : Kernel n) (thread : Fin n) (reason : UnblockReason) : Kernel n :=
  { k with
    threads := Function.update k.threads thread
      { k.threads thread with state := .runnable, unblockReason := reason }
    semaphore := { k.semaphore with blockedList := k.semaphore.blockedList.erase thread } }

@[simp] theorem block_semaphore_value (k : Kernel n) (thread : Fin n)
    (timePoint : Option TimePoint) : (k.block thread timePoint).semaphore.value = k.semaphore.value :=
  rfl

@[simp] theorem unblock_semaphore_value (k : Kernel n) (thread : Fin n) (reason : UnblockReason) :
    (k.unblock thread reason).semaphore.value = k.semaphore.value := rfl

/-- `Semaphore::post`. -/
def post (k : Kernel n) : Nat × Kernel n :=
  if k.semaphore.value = k.semaphore.maxValue then (EOVERFLOW, k)
  else
    match k.semaphore.blockedList with
    | head :: _ => (0, k.unblock head .unblockRequest)
    | [] => (0, { k with semaphore := { k.semaphore with value := k.semaphore.value + 1 } })

theorem post_of_full {k : Kernel n} (full : k.semaphore.value = k.semaphore.maxValue) :
    k.post = (EOVERFLOW, k) := if_pos full

theorem post_of_waiter {k : Kernel n} {head : Fin n} {rest : List (Fin n)}
    (notFull : k.semaphore.value ≠ k.semaphore.maxValue)
    (waiting : k.semaphore.blockedList = head :: rest) :
    k.post = (0, k.unblock head .unblockRequest) := by
  rw [post, if_neg notFull, waiting]

theorem post_of_empty {k : Kernel n} (notFull : k.semaphore.value ≠ k.semaphore.maxValue)
    (empty : k.semaphore.blockedList = []) :
    k.post = (0, { k with semaphore := { k.semaphore with value := k.semaphore.value + 1 } }) := by
  rw [post, if_neg notFull, empty]

/-- `Semaphore::tryWait`. -/
def tryWait (k : Kernel n) : Nat × Kernel n :=
  ((k.semaphore.tryWaitInternal).1, { k with semaphore := (k.semaphore.tryWaitInternal).2 })

/-- `Semaphore::wait` (`timePoint = none`) and `Semaphore::tryWaitUntil`: the call returns
`tryWaitInternal`'s result at once, or blocks and returns later (`none` here). -/
def tryWaitOrBlock (k : Kernel n) (thread : Fin n) (timePoint : Option TimePoint) :
    Option Nat × Kernel n :=
  if (k.semaphore.tryWaitInternal).1 ≠ EAGAIN then
    (some (k.semaphore.tryWaitInternal).1, { k with semaphore := (k.semaphore.tryWaitInternal).2 })
  else (none, k.block thread timePoint)

/-- `Semaphore::wait`. -/
def wait (k : Kernel n) (thread : Fin n) : Option Nat × Kernel n :=
  k.tryWaitOrBlock thread none

/-- `Semaphore::tryWaitUntil`. -/
def tryWaitUntil (k : Kernel n) (thread : Fin n) (timePoint : TimePoint) : Option Nat × Kernel n :=
  k.tryWaitOrBlock thread (some timePoint)

/-- `Semaphore::tryWaitFor`. -/
def tryWaitFor (k : Kernel n) (thread : Fin n) (duration : Duration) : Option Nat × Kernel n :=
  k.tryWaitUntil thread (tryWaitForTimePoint k.now duration)

/-- Modelled from the spec: a change of one thread's priority fields to those of `tcb`. When the
effective priority changes and the thread is on the blocked list, `reposition` moves it. -/
def changePriority (k : Kernel n) (thread : Fin n) (tcb : ThreadControlBlock)
    (loweringBefore : Bool) : Kernel n :=
  if (k.threads thread).getEffectivePriority ≠ tcb.getEffectivePriority ∧
      thread ∈ k.semaphore.blockedList then
    { k with
      threads := Function.update k.threads thread tcb
      semaphore := { k.semaphore with
        blockedList := reposition (priorityOf (Function.update k.threads thread tcb))
          tcb.getEffectivePriority loweringBefore thread k.semaphore.blockedList } }
  else { k with threads := Function.update k.threads thread tcb }

@[simp] theorem change_priority_semaphore_value (k : Kernel n) (thread : Fin n)
    (tcb : ThreadControlBlock) (loweringBefore : Bool) :
    (k.changePriority thread tcb loweringBefore).semaphore.value = k.semaphore.value := by
  unfold changePriority
  split_ifs <;> rfl

@[simp] theorem change_priority_calls (k : Kernel n) (thread : Fin n) (tcb : ThreadControlBlock)
    (loweringBefore : Bool) : (k.changePriority thread tcb loweringBefore).calls = k.calls := by
  unfold changePriority
  split_ifs <;> rfl

@[simp] theorem change_priority_threads (k : Kernel n) (thread : Fin n) (tcb : ThreadControlBlock)
    (loweringBefore : Bool) :
    (k.changePriority thread tcb loweringBefore).threads = Function.update k.threads thread tcb := by
  unfold changePriority
  split_ifs <;> rfl

theorem change_priority_blocked_list (k : Kernel n) (thread : Fin n) (tcb : ThreadControlBlock)
    (loweringBefore : Bool) :
    (k.changePriority thread tcb loweringBefore).semaphore.blockedList =
      if (k.threads thread).getEffectivePriority ≠ tcb.getEffectivePriority ∧
          thread ∈ k.semaphore.blockedList then
        reposition (priorityOf (Function.update k.threads thread tcb)) tcb.getEffectivePriority
          loweringBefore thread k.semaphore.blockedList
      else k.semaphore.blockedList := by
  unfold changePriority
  split_ifs <;> rfl

/-- Modelled from the spec: `ThreadControlBlock::setPriority(priority, alwaysBehind)`. A lowered
thread heads its new group unless `alwaysBehind`. -/
def setPriority (k : Kernel n) (thread : Fin n) (priority : Nat) (alwaysBehind : Bool) :
    Kernel n :=
  k.changePriority thread { k.threads thread with priority := priority }
    (!alwaysBehind && ({ k.threads thread with priority := priority }).getEffectivePriority <
      (k.threads thread).getEffectivePriority)

/-- Modelled from the spec: `ThreadControlBlock::updateBoostedPriority`, `boostedPriority`
standing for the maximum its loop over the owned protocol mutexes computes. -/
def updateBoostedPriority (k : Kernel n) (thread : Fin n) (boostedPriority : Nat) : Kernel n :=
  k.changePriority thread { k.threads thread with boostedPriority := boostedPriority }
    (decide (({ k.threads thread with boostedPriority := boostedPriority }).getEffectivePriority <
      (k.threads thread).getEffectivePriority))

/-- Modelled from the spec: the software timer of `blockUntil` fires once its time point is
reached, and unblocks the thread with `Timeout` only if it is still on the blocked list.
`Scheduler::blockUntil` is not under src/. It is read as always blocking the thread, with a timer
that may fire at any step once `now` has reached the time point, also a time point already
reached when the call began: the spec's immediate `ETIMEDOUT` is then this expiry followed by the
resumption, not a refusal at entry. -/
def expire (k : Kernel n) (thread : Fin n) : Kernel n :=
  match k.calls thread with
  | .blocked (some timePoint) =>
      if timePoint ≤ k.now ∧ thread ∈ k.semaphore.blockedList then k.unblock thread .timeout
      else k
  | _ => k

/-- The scheduler runs a thread unblocked inside `wait` or `tryWaitUntil`: the call returns
what `block` returns. -/
def resume (k : Kernel n) (thread : Fin n) : Kernel n × Option (Output n) :=
  match k.calls thread with
  | .blocked _ =>
      if (k.threads thread).state = .runnable then
        ({ k with calls := Function.update k.calls thread .idle },
          some (.returned thread (blockResult (k.threads thread).unblockReason)))
      else (k, none)
  | .idle => (k, none)

/-- A wait-family call runs only on a thread outside the semaphore. -/
def call (k : Kernel n) (thread : Fin n) (result : Option Nat × Kernel n) :
    Kernel n × Option (Output n) :=
  if k.calls thread = .idle then (result.2, result.1.map (Output.returned thread)) else (k, none)

def step (k : Kernel n) : Event n → Kernel n × Option (Output n)
  | .post => (k.post.2, some (.posted k.post.1))
  | .tryWait thread => k.call thread (some k.tryWait.1, k.tryWait.2)
  | .tryWaitFor thread duration => k.call thread (k.tryWaitFor thread duration)
  | .tryWaitUntil thread timePoint => k.call thread (k.tryWaitUntil thread timePoint)
  | .wait thread => k.call thread (k.wait thread)
  | .resume thread => k.resume thread
  | .tick => ({ k with now := k.now + 1 }, none)
  | .expire thread => (k.expire thread, none)
  | .setPriority thread priority alwaysBehind => (k.setPriority thread priority alwaysBehind, none)
  | .updateBoostedPriority thread boostedPriority =>
      (k.updateBoostedPriority thread boostedPriority, none)

/-- The state after a sequence of events and everything returned on the way. -/
def run (k : Kernel n) : List (Event n) → Kernel n × List (Output n)
  | [] => (k, [])
  | event :: events =>
      let rest := (k.step event).1.run events
      (rest.1, (k.step event).2.toList ++ rest.2)

/-- A semaphore constructed as `Semaphore(value, maxValue)`, with every thread outside it. -/
def init (now : TimePoint) (threads : Fin n → ThreadControlBlock) (value maxValue : Semaphore.Value) :
    Kernel n :=
  { now := now
    threads := threads
    calls := fun _ => .idle
    semaphore := Semaphore.create value maxValue }

/-! ## What a step can do -/

@[simp] theorem priority_of_block (k : Kernel n) (thread : Fin n) (timePoint : Option TimePoint) :
    priorityOf (k.block thread timePoint).threads = priorityOf k.threads :=
  priority_of_update_of_same rfl

@[simp] theorem priority_of_unblock (k : Kernel n) (thread : Fin n) (reason : UnblockReason) :
    priorityOf (k.unblock thread reason).threads = priorityOf k.threads :=
  priority_of_update_of_same rfl

/-- Everything one step can do, read off `step` once so that every invariant is a case analysis
over these shapes. -/
inductive Transition (k : Kernel n) : Kernel n → Option (Output n) → Prop where
  | stutter : Transition k k none
  | overflow : k.semaphore.value = k.semaphore.maxValue →
      Transition k k (some (.posted EOVERFLOW))
  | handOver {head : Fin n} {rest : List (Fin n)} : k.semaphore.blockedList = head :: rest →
      k.semaphore.value ≠ k.semaphore.maxValue →
      Transition k (k.unblock head .unblockRequest) (some (.posted 0))
  | increment : k.semaphore.blockedList = [] → k.semaphore.value ≠ k.semaphore.maxValue →
      Transition k { k with semaphore := { k.semaphore with value := k.semaphore.value + 1 } }
        (some (.posted 0))
  | take {thread : Fin n} : k.calls thread = .idle → k.semaphore.value ≠ 0 →
      Transition k { k with semaphore := { k.semaphore with value := k.semaphore.value - 1 } }
        (some (.returned thread 0))
  | refuse {thread : Fin n} : k.calls thread = .idle → k.semaphore.value = 0 →
      Transition k k (some (.returned thread EAGAIN))
  | block {thread : Fin n} {timePoint : Option TimePoint} : k.calls thread = .idle →
      k.semaphore.value = 0 → Transition k (k.block thread timePoint) none
  | resume {thread : Fin n} {timePoint : Option TimePoint} :
      k.calls thread = .blocked timePoint → (k.threads thread).state = .runnable →
      Transition k { k with calls := Function.update k.calls thread .idle }
        (some (.returned thread (blockResult (k.threads thread).unblockReason)))
  | tick : Transition k { k with now := k.now + 1 } none
  | expire {thread : Fin n} : thread ∈ k.semaphore.blockedList →
      Transition k (k.unblock thread .timeout) none
  | changePriority {thread : Fin n} {tcb : ThreadControlBlock} {loweringBefore : Bool} :
      tcb.state = (k.threads thread).state →
      tcb.unblockReason = (k.threads thread).unblockReason →
      Transition k (k.changePriority thread tcb loweringBefore) none

theorem post_transition (k : Kernel n) : Transition k k.post.2 (some (.posted k.post.1)) := by
  by_cases full : k.semaphore.value = k.semaphore.maxValue
  · rw [post_of_full full]
    exact .overflow full
  · cases list : k.semaphore.blockedList with
    | nil => rw [post_of_empty full list]; exact .increment list full
    | cons head rest => rw [post_of_waiter full list]; exact .handOver list full

theorem call_transition (k : Kernel n) (thread : Fin n) (timePoint : Option TimePoint) :
    Transition k (k.call thread (k.tryWaitOrBlock thread timePoint)).1
      (k.call thread (k.tryWaitOrBlock thread timePoint)).2 := by
  unfold call
  split_ifs with idle
  · by_cases zero : k.semaphore.value = 0
    · simpa [tryWaitOrBlock, Semaphore.try_wait_internal_of_zero zero] using
        Transition.block idle zero
    · have ne : (0 : Nat) ≠ EAGAIN := by decide
      simpa [tryWaitOrBlock, Semaphore.try_wait_internal_of_ne zero, ne] using
        Transition.take idle zero
  · exact .stutter

theorem try_wait_transition (k : Kernel n) (thread : Fin n) :
    Transition k (k.call thread (some k.tryWait.1, k.tryWait.2)).1
      (k.call thread (some k.tryWait.1, k.tryWait.2)).2 := by
  unfold call
  split_ifs with idle
  · by_cases zero : k.semaphore.value = 0
    · simpa [tryWait, Semaphore.try_wait_internal_of_zero zero] using Transition.refuse idle zero
    · simpa [tryWait, Semaphore.try_wait_internal_of_ne zero] using Transition.take idle zero
  · exact .stutter

theorem resume_transition (k : Kernel n) (thread : Fin n) :
    Transition k (k.resume thread).1 (k.resume thread).2 := by
  unfold resume
  split
  · rename_i timePoint blocked
    split_ifs with runnable
    · exact .resume blocked runnable
    · exact .stutter
  · exact .stutter

theorem expire_transition (k : Kernel n) (thread : Fin n) :
    Transition k (k.expire thread) none := by
  unfold expire
  split
  · split_ifs with due
    · exact .expire due.2
    · exact .stutter
  · exact .stutter

/-- The spec of `step`: every step is one of the shapes of `Transition`. -/
theorem step_transition (k : Kernel n) (event : Event n) :
    Transition k (k.step event).1 (k.step event).2 := by
  cases event with
  | post => exact post_transition k
  | tryWait thread => exact try_wait_transition k thread
  | tryWaitFor thread duration => exact call_transition k thread _
  | tryWaitUntil thread timePoint => exact call_transition k thread _
  | wait thread => exact call_transition k thread _
  | resume thread => exact resume_transition k thread
  | tick => exact .tick
  | expire thread => exact expire_transition k thread
  | setPriority thread priority alwaysBehind => exact .changePriority rfl rfl
  | updateBoostedPriority thread boostedPriority => exact .changePriority rfl rfl

/-- On a zero value, `tryWaitFor(duration)` of a thread outside the semaphore blocks it until
`tryWaitForTimePoint now duration`, the `now() + duration + 1` of `Semaphore::tryWaitFor`. -/
theorem step_try_wait_for_of_zero {k : Kernel n} {thread : Fin n} (idle : k.calls thread = .idle)
    (zero : k.semaphore.value = 0) (duration : Duration) :
    k.step (.tryWaitFor thread duration) =
      (k.block thread (some (tryWaitForTimePoint k.now duration)), none) := by
  simp [step, call, idle, tryWaitFor, tryWaitUntil, tryWaitOrBlock,
    Semaphore.try_wait_internal_of_zero zero]

end Kernel

end Distortos
