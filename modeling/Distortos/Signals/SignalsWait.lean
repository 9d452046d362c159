import Distortos.Signals.SignalsInvariant

/-!
# What a signal wait returns

The contract of `ThisThread::Signals::wait`, `tryWait`, `tryWaitUntil` and `tryWaitFor`, all of
which call `waitImplementation`. A call either ends in the step that enters it, or blocks and ends
in the step that runs its thread again. `EntrySpec` and `ResumeSpec` say what each of these steps
returns: the lowest signal of the signal set and of the pending set read at entry, or of the signal
set and of the pending set the unblock functor saved; its bit is then the only one cleared. Only the
thread itself accepts its signals, so the saved set is still pending when the call resumes and
`acceptPendingSignal` is never given `255` or a clear bit.
-/

namespace Distortos

set_option autoImplicit false

open Scheduler

variable {n : Nat}

/-- A wait accepts `signalNumber`, the lowest signal of `signalSet &&& candidates`: it was pending
in `before`, and `after` is `before` with that bit cleared and no other. -/
structure AcceptsLowest (signalSet candidates before after : SignalSet) (signalNumber : Nat) :
    Prop where
  lowest : IsLowestSignal (signalSet &&& candidates) signalNumber
  wasPending : before.getLsbD signalNumber = true
  cleared : ∀ bit, after.getLsbD bit = (decide (bit ≠ signalNumber) && before.getLsbD bit)

theorem accepts_lowest_first {signalSet candidates before : SignalSet}
    (nonempty : signalSet &&& candidates ≠ 0) (pending : Included (signalSet &&& candidates) before) :
    AcceptsLowest signalSet candidates before
      (before &&& ~~~(BitVec.twoPow 32 (firstSignal (signalSet &&& candidates))))
      (firstSignal (signalSet &&& candidates)) :=
  have lowest := first_signal_lowest nonempty
  ⟨lowest, pending _ lowest.2.1, get_clear_signal before lowest.1⟩

namespace SignalWorld

/-- The step that enters a wait of `thread` for `signalSet` returns the lowest pending signal of
the set if there is one; otherwise, in non-blocking mode, `EAGAIN` with nothing changed, and in
blocking mode no result yet, with `waitingSignalSet_` set and the pending set kept. -/
def EntrySpec (w : SignalWorld n) (next : SignalWorld n × Option (SignalOutput n)) (thread : Fin n)
    (signalSet : SignalSet) (nonBlocking : Bool) : Prop :=
  let pending := (w.threads thread).pendingSignalSet
  (signalSet &&& pending ≠ 0 → ∃ signalNumber, next.2 = some (.returned thread 0 signalNumber) ∧
      AcceptsLowest signalSet pending pending (next.1.threads thread).pendingSignalSet signalNumber) ∧
    (signalSet &&& pending = 0 → nonBlocking = true →
      next = (w, some (.returned thread EAGAIN 0))) ∧
    (signalSet &&& pending = 0 → nonBlocking = false → next.2 = none ∧
      (next.1.threads thread).waitingSignalSet = some signalSet ∧
      (next.1.threads thread).pendingSignalSet = pending)

/-- The step that runs a blocked wait again returns, when a signal unblocked it, the lowest signal
of its set and of the pending set saved at unblocking, taken from the current pending set; when
its timer unblocked it, `ETIMEDOUT` with the pending set kept. -/
def ResumeSpec (w : SignalWorld n) (next : SignalWorld n × Option (SignalOutput n))
    (thread : Fin n) (frame : SignalWait) : Prop :=
  let pending := (w.threads thread).pendingSignalSet
  ((w.threads thread).unblockReason = .unblockRequest → ∃ signalNumber,
      next.2 = some (.returned thread 0 signalNumber) ∧
      AcceptsLowest frame.signalSet frame.pendingSignalSet pending
        (next.1.threads thread).pendingSignalSet signalNumber) ∧
    ((w.threads thread).unblockReason = .timeout →
      next.2 = some (.returned thread ETIMEDOUT 0) ∧
      (next.1.threads thread).pendingSignalSet = pending ∧
      ∃ timePoint, frame.timePoint = some timePoint)

variable {w : SignalWorld n}

theorem accept_first_of_pending {thread : Fin n} {signalSet candidates : SignalSet}
    (nonempty : signalSet &&& candidates ≠ 0)
    (pending : Included (signalSet &&& candidates) (w.threads thread).pendingSignalSet) :
    (w.acceptFirst thread (signalSet &&& candidates)).1.1 = 0 ∧
      AcceptsLowest signalSet candidates (w.threads thread).pendingSignalSet
        ((w.acceptFirst thread (signalSet &&& candidates)).2.threads thread).pendingSignalSet
        (w.acceptFirst thread (signalSet &&& candidates)).1.2 := by
  have lowest := first_signal_lowest nonempty
  simp only [acceptFirst, ThreadControlBlock.acceptPendingSignal, lowest.1, pending _ lowest.2.1,
    and_self, if_true, Function.update_same]
  exact ⟨trivial, accepts_lowest_first nonempty pending⟩

theorem call_wait_implementation_spec {thread : Fin n}
    (runnable : (w.threads thread).state = .runnable) (idle : w.calls thread = .idle)
    (signalSet : SignalSet) (nonBlocking : Bool) (timePoint : Option TimePoint) :
    EntrySpec w (w.call thread (w.waitImplementation thread signalSet nonBlocking timePoint)) thread
      signalSet nonBlocking := by
  have free : (w.threads thread).state = .runnable ∧ w.calls thread = .idle := ⟨runnable, idle⟩
  simp only [EntrySpec, SignalWorld.call, free, and_self, if_true, waitImplementation]
  refine ⟨fun hit => ?_, fun miss nonBlocking => by simp [miss, nonBlocking],
    fun miss blocking => by simp [miss, blocking]⟩
  obtain ⟨ret, accepts⟩ := accept_first_of_pending hit (included_and_right signalSet _)
  simp only [hit, if_false, Option.map_some']
  exact ⟨_, by rw [ret], accepts⟩

theorem call_returned {caller thread : Fin n} {signalSet : SignalSet} {nonBlocking : Bool}
    {timePoint : Option TimePoint} {ret signalNumber : Nat}
    (returned : (w.call caller (w.waitImplementation caller signalSet nonBlocking timePoint)).2 =
      some (.returned thread ret signalNumber)) :
    thread = caller ∧ (ret = 0 ∨ ret = EAGAIN ∧ nonBlocking = true ∧
      signalSet &&& (w.threads caller).pendingSignalSet = 0) := by
  by_cases free : (w.threads caller).state = .runnable ∧ w.calls caller = .idle
  · obtain ⟨hit, again, block⟩ := call_wait_implementation_spec free.1 free.2 signalSet nonBlocking
      timePoint
    by_cases miss : signalSet &&& (w.threads caller).pendingSignalSet = 0
    · cases nonBlocking with
      | false => simp [(block miss rfl).1] at returned
      | true =>
          simp only [again miss rfl, Option.some.injEq, SignalOutput.returned.injEq] at returned
          exact ⟨returned.1.symm, .inr ⟨returned.2.1.symm, rfl, miss⟩⟩
    · obtain ⟨_, output, -⟩ := hit miss
      simp only [output, Option.some.injEq, SignalOutput.returned.injEq] at returned
      exact ⟨returned.1.symm, .inl returned.2.1.symm⟩
  · simp [SignalWorld.call, free] at returned

theorem Consistent.resume_spec (consistent : w.Consistent) {thread : Fin n} {frame : SignalWait}
    (blocked : w.calls thread = .blocked frame) (runnable : (w.threads thread).state = .runnable) :
    ResumeSpec w (w.resume thread) thread frame := by
  refine ⟨fun request => ?_, fun timeout => ?_⟩
  · obtain ⟨meets, saved⟩ := (consistent thread).woken frame blocked runnable request
    obtain ⟨ret, accepts⟩ := accept_first_of_pending
      (w := { w with calls := Function.update w.calls thread .idle }) meets
      ((included_and_right _ _).trans saved)
    simp only [SignalWorld.resume, blocked, runnable, request, blockResult, ne_eq,
      not_true_eq_false, if_true, if_false]
    exact ⟨_, by rw [ret], accepts⟩
  · have timed := (consistent thread).timedOut frame blocked runnable timeout
    simp [SignalWorld.resume, blocked, runnable, timeout, blockResult, ETIMEDOUT, timed]

theorem Consistent.step_returned (consistent : w.Consistent) {event : SignalEvent n}
    {thread : Fin n} {ret signalNumber : Nat}
    (returned : (w.step event).2 = some (.returned thread ret signalNumber)) :
    ret = 0 ∨
      (ret = EAGAIN ∧ ∃ signalSet, event = .tryWait thread signalSet ∧
        signalSet &&& (w.threads thread).pendingSignalSet = 0) ∨
      (ret = ETIMEDOUT ∧ event = .resume thread ∧ (w.threads thread).unblockReason = .timeout) := by
  cases event with
  | wait | tryWaitUntil | tryWaitFor =>
      obtain ⟨-, result⟩ := call_returned returned
      simpa using result
  | tryWait caller signalSet =>
      obtain ⟨rfl, result⟩ := call_returned returned
      exact result.imp_right fun again => .inl ⟨again.1, signalSet, rfl, again.2.2⟩
  | resume caller =>
      cases call : w.calls caller with
      | idle => simp [SignalWorld.step, SignalWorld.resume, call] at returned
      | blocked frame =>
          by_cases runnable : (w.threads caller).state = .runnable
          · obtain ⟨request, timeout⟩ := consistent.resume_spec call runnable
            cases reason : (w.threads caller).unblockReason with
            | unblockRequest =>
                obtain ⟨_, output, -⟩ := request reason
                simp only [SignalWorld.step, output, Option.some.injEq, SignalOutput.returned.injEq] at returned
                exact .inl returned.2.1.symm
            | timeout =>
                simp only [SignalWorld.step, (timeout reason).1, Option.some.injEq,
                  SignalOutput.returned.injEq] at returned
                obtain ⟨rfl, rfl, -⟩ := returned
                exact .inr (.inr ⟨rfl, rfl, reason⟩)
          · simp [SignalWorld.step, SignalWorld.resume, call, runnable] at returned
  | generateSignal | tick | expire => simp [SignalWorld.step] at returned

/-! ## Who unblocks a waiting thread -/

theorem unblock_pending (thread other : Fin n) (reason : UnblockReason) :
    ((w.unblock thread reason).threads other).pendingSignalSet = (w.threads other).pendingSignalSet := by
  cases call : w.calls thread with
  | idle => simp [SignalWorld.unblock, call]
  | blocked frame =>
      by_cases same : other = thread
      · subst same
        simp [unblock_of_blocked call]
      · simp [unblock_of_blocked call, same]

theorem generate_signal_pending (target other : Fin n) (signalNumber : Nat) :
    Included (w.threads other).pendingSignalSet
      ((w.generateSignal target signalNumber).2.threads other).pendingSignalSet := by
  have grown : Included (w.threads other).pendingSignalSet
      (Function.update w.threads target { w.threads target with
        pendingSignalSet := (w.threads target).pendingSignalSet ||| BitVec.twoPow 32 signalNumber }
        other).pendingSignalSet := by
    by_cases same : other = target
    · subst same
      simpa using included_or_left _ _
    · simpa [same] using fun _ set => set
  rcases generate_signal_cases target signalNumber (w := w) with same | ⟨same, -⟩ | ⟨-, same⟩ <;>
    rw [same]
  · exact fun _ set => set
  · exact grown
  · rw [unblock_pending]
    exact grown

theorem expire_pending (thread other : Fin n) :
    ((w.expire thread).threads other).pendingSignalSet = (w.threads other).pendingSignalSet := by
  rcases expire_cases thread (w := w) with same | ⟨-, -, -, -, -, same⟩ <;> rw [same]
  exact unblock_pending _ _ _

theorem accept_first_keeps_pending (thread : Fin n) (intersection : SignalSet) {other : Fin n}
    {bit : Nat} (pending : (w.threads other).pendingSignalSet.getLsbD bit = true) :
    ((w.acceptFirst thread intersection).2.threads other).pendingSignalSet.getLsbD bit = true ∨
      other = thread ∧ (w.acceptFirst thread intersection).1 = (0, bit) := by
  by_cases same : other = thread
  · subst same
    unfold acceptFirst ThreadControlBlock.acceptPendingSignal
    split_ifs with accepted
    · by_cases first : bit = firstSignal intersection
      · exact .inr ⟨rfl, by simp [first]⟩
      · exact .inl (by simp [get_clear_signal _ accepted.1, first, pending])
    · exact .inl (by simpa using pending)
  · exact .inl (by simpa [acceptFirst, same] using pending)

theorem call_wait_keeps_pending {caller thread : Fin n} {signalSet : SignalSet}
    {nonBlocking : Bool} {timePoint : Option TimePoint} {bit : Nat}
    (pending : (w.threads thread).pendingSignalSet.getLsbD bit = true) :
    let entered := w.call caller (w.waitImplementation caller signalSet nonBlocking timePoint)
    (entered.1.threads thread).pendingSignalSet.getLsbD bit = true ∨
      entered.2 = some (.returned thread 0 bit) := by
  unfold SignalWorld.call waitImplementation
  split_ifs with free
  · exact .inl pending
  · by_cases same : thread = caller
    · subst same
      simpa using pending
    · simpa [same] using pending
  · rcases accept_first_keeps_pending caller (signalSet &&& (w.threads caller).pendingSignalSet) pending
      with kept | ⟨rfl, accepted⟩
    · exact .inl kept
    · exact .inr (by simp [accepted])
  · exact .inl pending

theorem resume_keeps_pending {caller thread : Fin n} {bit : Nat}
    (pending : (w.threads thread).pendingSignalSet.getLsbD bit = true) :
    ((w.resume caller).1.threads thread).pendingSignalSet.getLsbD bit = true ∨
      (w.resume caller).2 = some (.returned thread 0 bit) := by
  unfold SignalWorld.resume
  split
  · split_ifs
    · exact .inl pending
    · rcases accept_first_keeps_pending (w := { w with calls := Function.update w.calls caller .idle })
        caller _ pending with kept | ⟨rfl, accepted⟩
      · exact .inl kept
      · exact .inr (by simp [accepted])
    · exact .inl pending
  · exact .inl pending

/-- A pending signal stays pending over any step, unless the step is a wait of its thread that
returns it: a signal generated during a wait that times out or takes another signal is not lost. -/
theorem step_keeps_pending_signal (w : SignalWorld n) (event : SignalEvent n) (thread : Fin n)
    (bit : Nat) (pending : (w.threads thread).pendingSignalSet.getLsbD bit = true) :
    ((w.step event).1.threads thread).pendingSignalSet.getLsbD bit = true ∨
      (w.step event).2 = some (.returned thread 0 bit) := by
  cases event with
  | generateSignal target signalNumber =>
      exact .inl (generate_signal_pending target thread signalNumber bit pending)
  | wait | tryWait | tryWaitUntil | tryWaitFor => exact call_wait_keeps_pending pending
  | resume caller => exact resume_keeps_pending pending
  | tick => exact .inl pending
  | expire caller =>
      left
      show ((w.expire caller).threads thread).pendingSignalSet.getLsbD bit = true
      rw [expire_pending]
      exact pending

def signalThreads : Fin 1 → ThreadControlBlock := fun _ =>
  { priority := 1, boostedPriority := 0, state := .runnable, unblockReason := .unblockRequest,
    pendingSignalSet := BitVec.twoPow 32 3, waitingSignalSet := none }

theorem accepted_signal_returned :
    ((init 0 signalThreads).threads 0).pendingSignalSet.getLsbD 3 = true ∧
      ((((init 0 signalThreads).step (.tryWait 0 (BitVec.twoPow 32 3))).1.threads 0).pendingSignalSet.getLsbD
          3 = true ∨
        ((init 0 signalThreads).step (.tryWait 0 (BitVec.twoPow 32 3))).2 = some (.returned 0 0 3)) :=
  ⟨by decide, step_keeps_pending_signal _ _ _ _ (by decide)⟩

example : ((init 0 signalThreads).step (.tryWait 0 (BitVec.twoPow 32 3))).2 =
    some (.returned 0 0 3) := by
  decide

end SignalWorld

end Distortos
