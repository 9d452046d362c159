import Distortos.Signals.SignalSet
import Mathlib.Logic.Function.Basic

/-!
# Waiting for signals

`ThisThread-Signals.cpp` over a kernel of `n` threads, each of which may be inside one call of
`waitImplementation`, next to the `generateSignal` calls of other threads and interrupts and the
tick that expires timed waits. `waitImplementation` runs under `InterruptMaskingLock` up to its
`block` or `blockUntil`; it returns once the scheduler runs the thread again (`resume`).

A blocked call is kept with its arguments and its local `pendingSignalSet`, which the
`SignalsWaitUnblockFunctor` of the call overwrites when the thread is unblocked. The pointer
`waitingSignalSet_` is modelled by the set it points to. `generateSignal`, `acceptPendingSignal`,
`Scheduler::block`, `blockUntil` and `unblock` are not under src/ and are modelled from the spec;
`unblock` runs the functor whatever the reason, as `ThreadControlBlock::unblockHook` documents.
-/

namespace Distortos

set_option autoImplicit false

open Scheduler

variable {n : Nat}

namespace Scheduler.ThreadControlBlock

/-- Modelled from the spec: `ThreadControlBlock::acceptPendingSignal(signalNumber)`. `EINVAL`
for a number out of range or a signal that is not pending; otherwise its bit is cleared. -/
def acceptPendingSignal (tcb : ThreadControlBlock) (signalNumber : Nat) :
    Nat × ThreadControlBlock :=
  if signalNumber < 32 ∧ tcb.pendingSignalSet.getLsbD signalNumber = true then
    (0, { tcb with pendingSignalSet := tcb.pendingSignalSet &&& ~~~(BitVec.twoPow 32 signalNumber) })
  else (EINVAL, tcb)

end Scheduler.ThreadControlBlock

/-- A call of `waitImplementation` blocked in the scheduler: its `signalSet` and `timePoint`
arguments and its local `pendingSignalSet`. -/
structure SignalWait where
  signalSet : SignalSet
  timePoint : Option TimePoint
  pendingSignalSet : SignalSet
  deriving DecidableEq, Repr

inductive SignalCall where
  | idle
  | blocked (frame : SignalWait)
  deriving DecidableEq, Repr

structure SignalWorld (n : Nat) where
  now : TimePoint
  threads : Fin n → ThreadControlBlock
  calls : Fin n → SignalCall

inductive SignalEvent (n : Nat) where
  | generateSignal (target : Fin n) (signalNumber : Nat)
  | wait (thread : Fin n) (signalSet : SignalSet)
  | tryWait (thread : Fin n) (signalSet : SignalSet)
  | tryWaitUntil (thread : Fin n) (signalSet : SignalSet) (timePoint : TimePoint)
  | tryWaitFor (thread : Fin n) (signalSet : SignalSet) (duration : Duration)
  | resume (thread : Fin n)
  | tick
  | expire (thread : Fin n)
  deriving DecidableEq, Repr

/-- What a step returns: the result of `generateSignal`, or the pair `(ret, signalNumber)` that a
wait of `thread` returns. -/
inductive SignalOutput (n : Nat) where
  | generated (ret : Nat)
  | returned (thread : Fin n) (ret : Nat) (signalNumber : Nat)
  deriving DecidableEq, Repr

/-- `SignalsWaitUnblockFunctor::operator()`: the pending set is saved into the call's local
`pendingSignalSet` and `waitingSignalSet_` is cleared. -/
def signalsWaitUnblockFunctor (frame : SignalWait) (tcb : ThreadControlBlock) :
    SignalWait × ThreadControlBlock :=
  ({ frame with pendingSignalSet := tcb.pendingSignalSet }, { tcb with waitingSignalSet := none })

namespace SignalWorld

/-- Modelled from the spec: `Scheduler::unblock` of a thread blocked in `waitImplementation`:
`unblockHook` records `reason` and runs the call's unblock functor, and the thread becomes
`Runnable`. -/
def unblock (w : SignalWorld n) (thread : Fin n) (reason : UnblockReason) : SignalWorld n :=
  match w.calls thread with
  | .blocked frame =>
      let unblocked := signalsWaitUnblockFunctor frame (w.threads thread)
      { w with
        threads := Function.update w.threads thread
          { unblocked.2 with state := .runnable, unblockReason := reason }
        calls := Function.update w.calls thread (.blocked unblocked.1) }
  | .idle => w

/-- Modelled from the spec: `ThreadControlBlock::generateSignal(signalNumber)`. `EINVAL` for a
number out of range; otherwise the signal becomes pending, and a thread waiting for a signal set
that now meets the pending set is unblocked. -/
def generateSignal (w : SignalWorld n) (target : Fin n) (signalNumber : Nat) :
    Nat × SignalWorld n :=
  if signalNumber < 32 then
    let tcb := { w.threads target with
      pendingSignalSet := (w.threads target).pendingSignalSet ||| BitVec.twoPow 32 signalNumber }
    let generated := { w with threads := Function.update w.threads target tcb }
    match tcb.waitingSignalSet with
    | some waiting =>
        if tcb.state = .waitingForSignal ∧ waiting &&& tcb.pendingSignalSet ≠ 0 then
          (0, generated.unblock target .unblockRequest)
        else (0, generated)
    | none => (0, generated)
  else (EINVAL, w)

/-- The end of `waitImplementation`: `signalNumber = __builtin_ffsl(intersection) - 1` and
`acceptPendingSignal(signalNumber)`. -/
def acceptFirst (w : SignalWorld n) (thread : Fin n) (intersection : SignalSet) :
    (Nat × Nat) × SignalWorld n :=
  let accepted := (w.threads thread).acceptPendingSignal (firstSignal intersection)
  ((accepted.1, firstSignal intersection),
    { w with threads := Function.update w.threads thread accepted.2 })

/-- `waitImplementation(signalSet, nonBlocking, timePoint)` up to its `block`: a result, or
`none` when the thread blocks with `waitingSignalSet_` pointing to `signalSet`. -/
def waitImplementation (w : SignalWorld n) (thread : Fin n) (signalSet : SignalSet)
    (nonBlocking : Bool) (timePoint : Option TimePoint) : Option (Nat × Nat) × SignalWorld n :=
  if signalSet &&& (w.threads thread).pendingSignalSet = 0 then
    if nonBlocking then (some (EAGAIN, 0), w)
    else
      (none, { w with
        threads := Function.update w.threads thread
          { w.threads thread with waitingSignalSet := some signalSet, state := .waitingForSignal }
        calls := Function.update w.calls thread
          (.blocked ⟨signalSet, timePoint, (w.threads thread).pendingSignalSet⟩) })
  else
    let accepted := w.acceptFirst thread (signalSet &&& (w.threads thread).pendingSignalSet)
    (some accepted.1, accepted.2)

/-- The rest of `waitImplementation` once the scheduler runs the unblocked thread again: an error
of `block` is returned with signal number `0`; otherwise the signal is taken from the saved
pending set. -/
def resume (w : SignalWorld n) (thread : Fin n) : SignalWorld n × Option (SignalOutput n) :=
  match w.calls thread with
  | .blocked frame =>
      if (w.threads thread).state = .runnable then
        let returned := { w with calls := Function.update w.calls thread .idle }
        if blockResult (w.threads thread).unblockReason ≠ 0 then
          (returned, some (.returned thread (blockResult (w.threads thread).unblockReason) 0))
        else
          let accepted := returned.acceptFirst thread (frame.signalSet &&& frame.pendingSignalSet)
          (accepted.2, some (.returned thread accepted.1.1 accepted.1.2))
      else (w, none)
  | .idle => (w, none)

/-- Modelled from the spec: the timer of `blockUntil` unblocks its thread with `Timeout` once the
time point is reached, if the thread is still waiting. As for the semaphore, `blockUntil` is read
as always blocking, with a timer that may fire at any step once `now` has reached the time point:
a wait whose time point has already passed blocks, and times out in the expiry that follows. -/
def expire (w : SignalWorld n) (thread : Fin n) : SignalWorld n :=
  match w.calls thread with
  | .blocked frame =>
      match frame.timePoint with
      | some timePoint =>
          if timePoint ≤ w.now ∧ (w.threads thread).state = .waitingForSignal then
            w.unblock thread .timeout
          else w
      | none => w
  | .idle => w

/-- A wait runs only on a runnable thread outside every wait. -/
def call (w : SignalWorld n) (thread : Fin n) (result : Option (Nat × Nat) × SignalWorld n) :
    SignalWorld n × Option (SignalOutput n) :=
  if (w.threads thread).state = .runnable ∧ w.calls thread = .idle then
    (result.2, result.1.map fun returned => .returned thread returned.1 returned.2)
  else (w, none)

def step (w : SignalWorld n) : SignalEvent n → SignalWorld n × Option (SignalOutput n)
  | .generateSignal target signalNumber =>
      ((w.generateSignal target signalNumber).2,
        some (.generated (w.generateSignal target signalNumber).1))
  | .wait thread signalSet => w.call thread (w.waitImplementation thread signalSet false none)
  | .tryWait thread signalSet => w.call thread (w.waitImplementation thread signalSet true none)
  | .tryWaitUntil thread signalSet timePoint =>
      w.call thread (w.waitImplementation thread signalSet false (some timePoint))
  | .tryWaitFor thread signalSet duration =>
      w.call thread
        (w.waitImplementation thread signalSet false (some (tryWaitForTimePoint w.now duration)))
  | .resume thread => w.resume thread
  | .tick => ({ w with now := w.now + 1 }, none)
  | .expire thread => (w.expire thread, none)

/-- `tryWaitFor(signalSet, duration)` of a running thread outside every wait, with none of
`signalSet` pending, blocks it until `tryWaitForTimePoint now duration`, the
`TickClock::now() + duration + 1` of `ThisThread::Signals::tryWaitFor`. -/
theorem step_try_wait_for_blocks {w : SignalWorld n} {thread : Fin n} {signalSet : SignalSet}
    (runnable : (w.threads thread).state = .runnable) (idle : w.calls thread = .idle)
    (misses : signalSet &&& (w.threads thread).pendingSignalSet = 0) (duration : Duration) :
    (w.step (.tryWaitFor thread signalSet duration)).2 = none ∧
      (w.step (.tryWaitFor thread signalSet duration)).1.calls thread =
        .blocked ⟨signalSet, some (tryWaitForTimePoint w.now duration),
          (w.threads thread).pendingSignalSet⟩ := by
  simp only [step]
  rw [SignalWorld.call, if_pos ⟨runnable, idle⟩, waitImplementation, if_pos misses]
  simp

def run (w : SignalWorld n) : List (SignalEvent n) → SignalWorld n × List (SignalOutput n)
  | [] => (w, [])
  | event :: events =>
      let rest := (w.step event).1.run events
      (rest.1, (w.step event).2.toList ++ rest.2)

/-- Running threads with their pending sets, none of them waiting for signals. -/
def init (now : TimePoint) (threads : Fin n → ThreadControlBlock) : SignalWorld n where
  now := now
  threads thread := { threads thread with state := .runnable, waitingSignalSet := none }
  calls _ := .idle

end SignalWorld

end Distortos
