import Distortos.TickClock

/-!
# Thread control block

The parts of `scheduler::ThreadControlBlock` that the modelled kernel paths read or write: base
and boosted priority, state, the reason of the last unblocking, the pending signal set and the
pointer to the set of signals the thread waits for. Stack, list link, owner, the list of owned
protocol mutexes, round-robin quantum, scheduling policy and newlib's `_reent` are read by no
modelled function and are left out. The `list_`/`iterator_` pair is replaced by membership of
the thread's index in the list that holds it.

The error codes are the `<cerrno>` values of newlib, the C library of the ARMv7-M port; only
their being distinct and nonzero matters.
-/

namespace Distortos

set_option autoImplicit false

def EINTR : Nat := 4
def EAGAIN : Nat := 11
def EINVAL : Nat := 22
def EDEADLK : Nat := 45
def ETIMEDOUT : Nat := 116
def EOVERFLOW : Nat := 139

/-- `SignalSet`: the `std::bitset<32>` of signal numbers `0 ... 31`. -/
abbrev SignalSet := BitVec 32

namespace Scheduler

/-- `ThreadControlBlock::State`. -/
inductive State where
  | new
  | runnable
  | sleeping
  | blockedOnSemaphore
  | suspended
  | terminated
  | blockedOnMutex
  | blockedOnConditionVariable
  | waitingForSignal
  deriving DecidableEq, Repr

/-- `ThreadControlBlock::UnblockReason`. -/
inductive UnblockReason where
  | unblockRequest
  | timeout
  deriving DecidableEq, Repr

/-- The union member `unblockFunctor_` is kept by the worlds that use it, next to the thread's
frame the functor writes into. -/
structure ThreadControlBlock where
  priority : Nat
  boostedPriority : Nat
  state : State
  unblockReason : UnblockReason
  pendingSignalSet : SignalSet
  waitingSignalSet : Option SignalSet
  deriving DecidableEq, Repr

namespace ThreadControlBlock

/-- `ThreadControlBlock::getEffectivePriority`: `std::max(priority_, boostedPriority_)`. -/
def getEffectivePriority (tcb : ThreadControlBlock) : Nat :=
  max tcb.priority tcb.boostedPriority

end ThreadControlBlock

end Scheduler

/-- Modelled from the spec: what `Scheduler::block` and `blockUntil` return once the thread runs
again. -/
def blockResult : Scheduler.UnblockReason → Nat
  | .unblockRequest => 0
  | .timeout => ETIMEDOUT

end Distortos
