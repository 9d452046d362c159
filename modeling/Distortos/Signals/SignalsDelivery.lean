import Distortos.Signals.SignalsWait

/-!
# Delivering a signal: who wakes, and what a wait takes

`waitImplementation` blocks a thread only when its signal set misses the pending set, and two
things unblock it: `ThreadControlBlock::generateSignal` of a signal the set holds, and the timer
of `blockUntil`. Over every run they are the only two, and the first never misses: since no
waiter has a pending signal it waits for (`NoLostWakeup`), a new signal makes the waited-for set
meet the pending set exactly when the set holds it.

A thread outside any wait takes a generated signal back with `tryWait`; the pair is a no-op
exactly when the signal was not pending before, since `acceptPendingSignal` clears a bit that
`generateSignal` may have found set.
-/

namespace Distortos.SignalWorld

set_option autoImplicit false

open Scheduler

variable {n : Nat} {w : SignalWorld n}

theorem generate_signal_of_not_waiting {target : Fin n} {signalNumber : Nat}
    (bound : signalNumber < 32) (notWaiting : (w.threads target).state ≠ .waitingForSignal) :
    w.generateSignal target signalNumber =
      (0, { w with
        threads := Function.update w.threads target
          { w.threads target with
            pendingSignalSet :=
              (w.threads target).pendingSignalSet ||| BitVec.twoPow 32 signalNumber } }) := by
  unfold generateSignal
  simp only [if_pos bound]
  split
  · simp [notWaiting]
  · rfl

theorem try_wait_pending_signal {thread : Fin n} {signalNumber : Nat} (bound : signalNumber < 32)
    (runnable : (w.threads thread).state = .runnable) (idle : w.calls thread = .idle)
    (pending : (w.threads thread).pendingSignalSet.getLsbD signalNumber = true) :
    w.call thread (w.waitImplementation thread (BitVec.twoPow 32 signalNumber) true none) =
      ({ w with
        threads := Function.update w.threads thread
          { w.threads thread with
            pendingSignalSet :=
              (w.threads thread).pendingSignalSet &&& ~~~(BitVec.twoPow 32 signalNumber) } },
        some (.returned thread 0 signalNumber)) := by
  have nonempty : BitVec.twoPow 32 signalNumber ≠ 0 := fun zero => by
    simpa [bound] using congrArg (fun value => BitVec.getLsbD value signalNumber) zero
  rw [SignalWorld.call, if_pos ⟨runnable, idle⟩]
  simp only [waitImplementation, two_pow_and_of_pending pending, if_neg nonempty]
  simp [acceptFirst, first_signal_two_pow bound, ThreadControlBlock.acceptPendingSignal, bound, pending]

/-- `generateSignal` of a signal to a thread running outside any wait, followed by the thread's
`tryWait` for that signal alone: the wait returns `(0, signalNumber)`, and the pair clears the
signal and changes nothing else, so it leaves the world as it was exactly when the signal was not
pending before. -/
theorem generate_then_try_wait (w : SignalWorld n) (thread : Fin n) {signalNumber : Nat}
    (bound : signalNumber < 32) (runnable : (w.threads thread).state = .runnable)
    (idle : w.calls thread = .idle) :
    let generated := w.step (.generateSignal thread signalNumber)
    let accepted := generated.1.step (.tryWait thread (BitVec.twoPow 32 signalNumber))
    generated.2 = some (.generated 0) ∧ accepted.2 = some (.returned thread 0 signalNumber) ∧
      accepted.1 = { w with
        threads := Function.update w.threads thread
          { w.threads thread with
            pendingSignalSet :=
              (w.threads thread).pendingSignalSet &&& ~~~(BitVec.twoPow 32 signalNumber) } } ∧
      (accepted.1 = w ↔ (w.threads thread).pendingSignalSet.getLsbD signalNumber = false) := by
  intro generated accepted
  have generate := generate_signal_of_not_waiting (w := w) bound
    (show (w.threads thread).state ≠ .waitingForSignal by simp [runnable])
  have taken := try_wait_pending_signal (w := (w.generateSignal thread signalNumber).2) bound
    (show ((w.generateSignal thread signalNumber).2.threads thread).state = .runnable by
      simp [generate, runnable])
    (by simp [generate, idle]) (by simp [generate, bound])
  have world : accepted.1 = { w with
      threads := Function.update w.threads thread
        { w.threads thread with
          pendingSignalSet :=
            ((w.threads thread).pendingSignalSet ||| BitVec.twoPow 32 signalNumber) &&&
              ~~~(BitVec.twoPow 32 signalNumber) } } := by
    simp only [accepted, generated, SignalWorld.step, taken]
    simp [generate]
  refine ⟨by simp [generated, SignalWorld.step, generate], by simp only [accepted, generated,
    SignalWorld.step, taken], by rw [world, clear_added_signal], ?_⟩
  rw [world, ← clear_added_signal_iff _ bound]
  constructor
  · intro same
    simpa using congrArg (fun world : SignalWorld n => (world.threads thread).pendingSignalSet) same
  · intro same
    rw [same]
    simp

theorem generated_signal_taken_back :
    let w := init 0 signalThreads
    (0 : Nat) < 32 ∧ (w.threads 0).state = .runnable ∧ w.calls 0 = .idle ∧
      (w.threads 0).pendingSignalSet.getLsbD 0 = false ∧
      ((w.step (.generateSignal 0 0)).1.step (.tryWait 0 (BitVec.twoPow 32 0))).2 =
        some (.returned 0 0 0) ∧
      ((w.step (.generateSignal 0 0)).1.step (.tryWait 0 (BitVec.twoPow 32 0))).1 = w :=
  have pair := generate_then_try_wait (init 0 signalThreads) 0 (by decide) rfl rfl
  ⟨by decide, rfl, rfl, by decide, pair.2.1, pair.2.2.2.2 (by decide)⟩

/-! ## Each delivery consumes a generation -/

theorem accept_first_clears {thread : Fin n} {intersection : SignalSet} {bit : Nat}
    (accepted : (w.acceptFirst thread intersection).1 = (0, bit)) :
    (w.threads thread).pendingSignalSet.getLsbD bit = true ∧
      ((w.acceptFirst thread intersection).2.threads thread).pendingSignalSet.getLsbD bit = false := by
  unfold acceptFirst ThreadControlBlock.acceptPendingSignal at *
  split_ifs at accepted ⊢ with valid
  · obtain rfl : firstSignal intersection = bit := (Prod.mk.inj accepted).2
    exact ⟨valid.2, by simp [get_clear_signal _ valid.1]⟩
  · simp [EINVAL] at accepted

theorem accept_first_pending_included (thread other : Fin n) (intersection : SignalSet) :
    Included ((w.acceptFirst thread intersection).2.threads other).pendingSignalSet
      (w.threads other).pendingSignalSet := by
  intro bit set
  by_cases same : other = thread
  · subst same
    unfold acceptFirst ThreadControlBlock.acceptPendingSignal at set
    split_ifs at set with valid
    · simp only [Function.update_same, get_clear_signal _ valid.1, Bool.and_eq_true] at set
      exact set.2
    · simpa using set
  · simpa [acceptFirst, same] using set

theorem call_wait_pending_included {caller : Fin n} (thread : Fin n) (signalSet : SignalSet)
    (nonBlocking : Bool) (timePoint : Option TimePoint) :
    Included
      ((w.call caller (w.waitImplementation caller signalSet nonBlocking timePoint)).1.threads
        thread).pendingSignalSet (w.threads thread).pendingSignalSet := by
  unfold SignalWorld.call waitImplementation
  split_ifs
  · exact fun _ set => set
  · by_cases same : thread = caller
    · subst same
      simpa using fun _ set => set
    · simpa [same] using fun _ set => set
  · exact accept_first_pending_included _ _ _
  · exact fun _ set => set

theorem resume_pending_included (caller thread : Fin n) :
    Included ((w.resume caller).1.threads thread).pendingSignalSet
      (w.threads thread).pendingSignalSet := by
  unfold SignalWorld.resume
  split
  · split_ifs
    · exact fun _ set => set
    · exact accept_first_pending_included (w := { w with calls := Function.update w.calls caller .idle })
        _ _ _
    · exact fun _ set => set
  · exact fun _ set => set

theorem step_sets_pending {event : SignalEvent n} {thread : Fin n} {bit : Nat}
    (set : ((w.step event).1.threads thread).pendingSignalSet.getLsbD bit = true) :
    (w.threads thread).pendingSignalSet.getLsbD bit = true ∨ event = .generateSignal thread bit := by
  cases event with
  | generateSignal target signalNumber =>
      have added : (Function.update w.threads target { w.threads target with
          pendingSignalSet := (w.threads target).pendingSignalSet ||| BitVec.twoPow 32 signalNumber }
          thread).pendingSignalSet.getLsbD bit = true →
          (w.threads thread).pendingSignalSet.getLsbD bit = true ∨
            SignalEvent.generateSignal target signalNumber = .generateSignal thread bit := by
        intro set
        by_cases same : thread = target
        · subst same
          simp only [Function.update_same, BitVec.getLsbD_or, BitVec.getLsbD_twoPow, Bool.or_eq_true,
            Bool.and_eq_true, decide_eq_true_eq] at set
          exact set.imp_right fun ⟨_, rfl⟩ => rfl
        · exact .inl (by simpa [same] using set)
      simp only [SignalWorld.step] at set
      rcases generate_signal_cases target signalNumber (w := w) with same | ⟨same, -⟩ | ⟨-, same⟩ <;>
        rw [same] at set
      · exact .inl set
      · exact added set
      · exact added (by rwa [unblock_pending] at set)
  | wait | tryWait | tryWaitUntil | tryWaitFor => exact .inl (call_wait_pending_included _ _ _ _ _ set)
  | resume caller => exact .inl (resume_pending_included caller thread bit set)
  | tick => exact .inl set
  | expire caller =>
      simp only [SignalWorld.step, expire_pending] at set
      exact .inl set

theorem call_wait_delivers {caller thread : Fin n} {signalSet : SignalSet} {nonBlocking : Bool}
    {timePoint : Option TimePoint} {bit : Nat}
    (delivered : (w.call caller (w.waitImplementation caller signalSet nonBlocking timePoint)).2 =
      some (.returned thread 0 bit)) :
    (w.threads thread).pendingSignalSet.getLsbD bit = true ∧
      ((w.call caller (w.waitImplementation caller signalSet nonBlocking timePoint)).1.threads
        thread).pendingSignalSet.getLsbD bit = false := by
  unfold SignalWorld.call waitImplementation at *
  split_ifs at delivered ⊢ <;> simp only [Option.map_some', Option.map_none', Option.some.injEq,
    SignalOutput.returned.injEq, reduceCtorEq] at delivered
  · simp [EAGAIN] at delivered
  · obtain ⟨rfl, ret, signal⟩ := delivered
    exact accept_first_clears (Prod.ext ret signal)

theorem resume_delivers {caller thread : Fin n} {bit : Nat}
    (delivered : (w.resume caller).2 = some (.returned thread 0 bit)) :
    (w.threads thread).pendingSignalSet.getLsbD bit = true ∧
      ((w.resume caller).1.threads thread).pendingSignalSet.getLsbD bit = false := by
  unfold SignalWorld.resume at *
  split at delivered
  · split_ifs at delivered ⊢ with runnable failed <;>
      simp only [Option.some.injEq, SignalOutput.returned.injEq] at delivered
    · exact absurd delivered.2.1 failed
    · obtain ⟨rfl, ret, signal⟩ := delivered
      exact accept_first_clears (w := { w with calls := Function.update w.calls caller .idle })
        (Prod.ext ret signal)
  · cases delivered

theorem step_delivers {event : SignalEvent n} {thread : Fin n} {bit : Nat}
    (delivered : (w.step event).2 = some (.returned thread 0 bit)) :
    (w.threads thread).pendingSignalSet.getLsbD bit = true ∧
      ((w.step event).1.threads thread).pendingSignalSet.getLsbD bit = false := by
  cases event with
  | wait | tryWait | tryWaitUntil | tryWaitFor => exact call_wait_delivers delivered
  | resume caller => exact resume_delivers delivered
  | generateSignal | tick | expire => simp [SignalWorld.step] at delivered

theorem step_delivery_count (w : SignalWorld n) (event : SignalEvent n) (thread : Fin n)
    (bit : Nat) :
    ((w.step event).2.toList.count (.returned thread 0 bit)) +
        (((w.step event).1.threads thread).pendingSignalSet.getLsbD bit).toNat ≤
      ((w.threads thread).pendingSignalSet.getLsbD bit).toNat +
        [event].count (.generateSignal thread bit) := by
  by_cases delivered : (w.step event).2 = some (.returned thread 0 bit)
  · obtain ⟨before, after⟩ := step_delivers delivered
    simp [delivered, before, after]
  · have notDelivered : (w.step event).2.toList.count (.returned thread 0 bit) = 0 :=
      List.count_eq_zero.2 fun member => delivered (by simpa using member)
    rw [notDelivered, Nat.zero_add]
    cases after : ((w.step event).1.threads thread).pendingSignalSet.getLsbD bit
    · exact Nat.zero_le _
    · rcases step_sets_pending after with before | rfl
      · simp [before]
      · simp

/-- Over every run, from any state, no wait returns a signal more often than it was generated:
for each thread and signal number, the waits that return it, plus one if it is still pending,
are at most the `generateSignal` calls of it to the thread, plus one if it was pending at the
start. A wait that takes a signal clears it, and only `generateSignal` sets it again. -/
theorem signal_delivered_at_most_as_generated (w : SignalWorld n) (events : List (SignalEvent n))
    (thread : Fin n) (bit : Nat) :
    (w.run events).2.count (.returned thread 0 bit) +
        (((w.run events).1.threads thread).pendingSignalSet.getLsbD bit).toNat ≤
      ((w.threads thread).pendingSignalSet.getLsbD bit).toNat +
        events.count (.generateSignal thread bit) := by
  induction events generalizing w with
  | nil => simp [SignalWorld.run]
  | cons event events ih =>
      have first := step_delivery_count w event thread bit
      have rest := ih (w.step event).1
      simp only [SignalWorld.run, List.count_append] at rest ⊢
      rw [show event :: events = [event] ++ events from rfl, List.count_append]
      omega

end Distortos.SignalWorld
