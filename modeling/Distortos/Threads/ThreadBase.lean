import Distortos.Synchronization.SemaphoreTickets

/-!
# Starting and joining a thread

`ThreadBase.cpp` over the scheduler's thread table: the threads that call `start` and `join` of
one `ThreadBase`, its own thread `owner` among them, and its `joinSemaphore_`. The thread table is
that of the join semaphore's kernel, so a joiner blocked in `joinSemaphore_.wait()` is a thread of
the table in state `BlockedOnSemaphore`.

`start` is not under one interrupt mask: its state check and its `Scheduler::add` are two steps,
and other threads may run between them. `add`, `remove` and the rest of the scheduler are not under
src/ and are modelled from the spec; `threadRunner` is the sequence `run()`, `remove`. `join` makes
one call of `joinSemaphore_.wait()`: its loop `while (... == EINTR)` is `retryInterrupted`, which
ends after the first call since no call of the semaphore returns `EINTR`.
-/

namespace Distortos

set_option autoImplicit false

open Scheduler

variable {n : Nat}

/-- Modelled from the spec: the default maximum of `Semaphore::Semaphore(value)`, `UINT_MAX`, with
which `joinSemaphore_{0}` is built. -/
def Semaphore.defaultMaxValue : Semaphore.Value := BitVec.allOnes 32

/-- Where the thread of the `ThreadBase` stands in `threadRunner`: inside `run()`, after `run()`
returned, or after `Scheduler::remove(terminationHook)`. -/
inductive RunnerPhase where
  | running
  | returned
  | removed
  deriving DecidableEq, Repr

/-- Where a call of `start` stands: outside it, or past its state check and before its `add`. -/
inductive StartCall where
  | idle
  | checked
  deriving DecidableEq, Repr

/-- One `ThreadBase`, its thread `owner` (a parameter of the operations) and the threads that call
it. -/
structure ThreadWorld (n : Nat) where
  joinSemaphore : Kernel n
  phase : RunnerPhase
  starts : Fin n → StartCall

/-- The steps of the callers and of the thread's own `threadRunner`, in any interleaving. A caller
of `start` checks the state in one step and calls `add` in a later one. -/
inductive ThreadEvent (n : Nat) where
  | startCheck (caller : Fin n)
  | startAdd (caller : Fin n)
  | join (caller : Fin n)
  | resume (caller : Fin n)
  | runReturns
  | remove
  deriving DecidableEq, Repr

/-- What a step returns: the result of `start`, of the `add` it makes, of `join`, and of the
`post` of `terminationHook`. -/
inductive ThreadOutput (n : Nat) where
  | started (caller : Fin n) (ret : Nat)
  | added (ret : Nat)
  | joined (caller : Fin n) (ret : Nat)
  | posted (ret : Nat)
  deriving DecidableEq, Repr

/-- The loop `while ((ret = joinSemaphore_.wait()) == EINTR);` of `ThreadBase::join`, continued
from `attempt`, the state and result of one call of `wait` or of its resumption: a call that
returned `EINTR` is made again, at most `fuel` more times. -/
def Kernel.retryInterrupted (caller : Fin n) :
    Nat → Kernel n × Option (Output n) → Kernel n × Option (Output n)
  | fuel + 1, (k, some (.returned thread ret)) =>
      if ret = EINTR then retryInterrupted caller fuel (k.step (.wait caller))
      else (k, some (.returned thread ret))
  | _, attempt => attempt

namespace ThreadWorld

variable (owner : Fin n)

/-- `ThreadBase::getState`. -/
def getState (w : ThreadWorld n) : State :=
  (w.joinSemaphore.threads owner).state

/-- `caller` runs its own code: it is runnable and inside none of the modelled calls. -/
def Free (w : ThreadWorld n) (caller : Fin n) : Prop :=
  (w.joinSemaphore.threads caller).state = .runnable ∧ w.joinSemaphore.calls caller = .idle ∧
    w.starts caller = .idle

instance (w : ThreadWorld n) : DecidablePred w.Free :=
  fun _ => inferInstanceAs (Decidable (_ ∧ _ ∧ _))

/-- The thread table with `owner` in state `state`. -/
def setState (w : ThreadWorld n) (state : State) : ThreadWorld n :=
  { w with joinSemaphore := { w.joinSemaphore with
      threads := Function.update w.joinSemaphore.threads owner
        { w.joinSemaphore.threads owner with state := state } } }

/-- Modelled from the spec: `Scheduler::add(threadControlBlock)`, which refuses with `EINVAL` a
thread that is not `New` and makes it `Runnable` otherwise. -/
def add (w : ThreadWorld n) : Nat × ThreadWorld n :=
  if w.getState owner = .new then (0, w.setState owner .runnable) else (EINVAL, w)

/-- The state check of `ThreadBase::start`: `if (getState() != New) return EINVAL;`. -/
def startCheck (w : ThreadWorld n) (caller : Fin n) : ThreadWorld n × List (ThreadOutput n) :=
  if w.getState owner ≠ .new then (w, [.started caller EINVAL])
  else ({ w with starts := Function.update w.starts caller .checked }, [])

/-- The rest of `ThreadBase::start`: `add(threadControlBlock_); return 0;`, with the result of
`add` not read. -/
def startAdd (w : ThreadWorld n) (caller : Fin n) : ThreadWorld n × List (ThreadOutput n) :=
  let called : ThreadWorld n := { w with starts := Function.update w.starts caller .idle }
  ((called.add owner).2, [.added (called.add owner).1, .started caller 0])

/-- What a step of `joinSemaphore_` returns to a caller of `join`. -/
def joinResult (caller : Fin n) : Option (Output n) → List (ThreadOutput n)
  | some (.returned _ ret) => [.joined caller ret]
  | _ => []

/-- `ThreadBase::join`: `EDEADLK` for the thread itself, otherwise `joinSemaphore_.wait()`, once:
`join_eq_retry_interrupted` shows that the loop around it ends after that call. -/
def join (w : ThreadWorld n) (caller : Fin n) : ThreadWorld n × List (ThreadOutput n) :=
  if caller = owner then (w, [.joined caller EDEADLK])
  else ({ w with joinSemaphore := (w.joinSemaphore.step (.wait caller)).1 },
    joinResult caller (w.joinSemaphore.step (.wait caller)).2)

/-- A joiner unblocked inside `joinSemaphore_.wait()` runs again and `join` returns. -/
def resume (w : ThreadWorld n) (caller : Fin n) : ThreadWorld n × List (ThreadOutput n) :=
  ({ w with joinSemaphore := (w.joinSemaphore.step (.resume caller)).1 },
    joinResult caller (w.joinSemaphore.step (.resume caller)).2)

/-- `ThreadBase::terminationHook`: `joinSemaphore_.post()`. -/
def terminationHook (w : ThreadWorld n) : ThreadWorld n × List (ThreadOutput n) :=
  ({ w with joinSemaphore := w.joinSemaphore.post.2 }, [.posted w.joinSemaphore.post.1])

/-- Modelled from the spec: `Scheduler::remove(&ThreadBase::terminationHook)`. The thread becomes
`Terminated`, leaves the ready list, and the hook runs. -/
def remove (w : ThreadWorld n) : ThreadWorld n × List (ThreadOutput n) :=
  terminationHook ({ w.setState owner .terminated with phase := .removed })

def step (w : ThreadWorld n) : ThreadEvent n → ThreadWorld n × List (ThreadOutput n)
  | .startCheck caller => if w.Free caller then w.startCheck owner caller else (w, [])
  | .startAdd caller =>
      if (w.joinSemaphore.threads caller).state = .runnable ∧ w.starts caller = .checked then
        w.startAdd owner caller
      else (w, [])
  | .join caller => if w.Free caller then w.join owner caller else (w, [])
  | .resume caller => w.resume caller
  | .runReturns =>
      if w.Free owner ∧ w.phase = .running then ({ w with phase := .returned }, []) else (w, [])
  | .remove => if w.Free owner ∧ w.phase = .returned then w.remove owner else (w, [])

def run (w : ThreadWorld n) : List (ThreadEvent n) → ThreadWorld n × List (ThreadOutput n)
  | [] => (w, [])
  | event :: events =>
      let rest := (w.step owner event).1.run events
      (rest.1, (w.step owner event).2 ++ rest.2)

/-- A `ThreadBase` just constructed: its thread `New`, `joinSemaphore_{0}`, no call in
progress. -/
def init (threads : Fin n → ThreadControlBlock) : ThreadWorld n where
  joinSemaphore :=
    Kernel.init 0 (Function.update threads owner { threads owner with state := .new }) 0
      Semaphore.defaultMaxValue
  phase := .running
  starts := fun _ => .idle

/-- Three runnable threads; the constructor makes thread `2`, the one to be started, `New`. -/
def startRaceThreads : Fin 3 → ThreadControlBlock :=
  fun _ => ⟨1, 0, .runnable, .unblockRequest, 0, none⟩

/-- Threads `0` and `1` both pass the state check of `start` before either reaches `add`: both
calls return `0`, and the thread control block is passed to `Scheduler::add` twice, the second
time refused with `EINVAL`, which `start` does not read. -/
theorem start_race_returns_zero_twice :
    ((init 2 startRaceThreads).run 2 [.startCheck 0, .startCheck 1, .startAdd 0, .startAdd 1]).2 =
      [.added 0, .started 0 0, .added EINVAL, .started 1 0] := by
  decide

end ThreadWorld

end Distortos
