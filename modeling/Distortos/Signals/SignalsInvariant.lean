import Distortos.Signals.ThisThreadSignals

/-!
# The waited-for signal set

Every operation of `SignalWorld` changes one thread's control block and call, so the invariant is
stated per thread (`WaitConsistent`) and checked only for the thread an operation touches.
`waitingSignalSet_` points to the argument of a blocked call exactly while the thread is
`WaitingForSignal`; the unblock functor clears it whatever the reason of the unblocking. A call
unblocked by `generateSignal` has saved a pending set that meets its signal set, and that saved set
stays pending until the call returns, since only the thread itself accepts its signals. A call
unblocked by its timer was a timed one.
-/

namespace Distortos

set_option autoImplicit false

open Scheduler

variable {n : Nat}

/-- What holds of one thread and its call in every reachable state. -/
structure WaitConsistent (tcb : ThreadControlBlock) (call : SignalCall) : Prop where
  waitingState : tcb.waitingSignalSet.isSome ↔ tcb.state = .waitingForSignal
  waitingFrame : ∀ signalSet, tcb.waitingSignalSet = some signalSet →
    ∃ frame, call = .blocked frame ∧ frame.signalSet = signalSet
  woken : ∀ frame, call = .blocked frame → tcb.state = .runnable →
    tcb.unblockReason = .unblockRequest →
    frame.signalSet &&& frame.pendingSignalSet ≠ 0 ∧ Included frame.pendingSignalSet tcb.pendingSignalSet
  timedOut : ∀ frame, call = .blocked frame → tcb.state = .runnable →
    tcb.unblockReason = .timeout → ∃ timePoint, frame.timePoint = some timePoint

namespace WaitConsistent

variable {tcb : ThreadControlBlock} {call : SignalCall}

theorem idle (notWaiting : tcb.state ≠ .waitingForSignal) (none : tcb.waitingSignalSet = none) :
    WaitConsistent tcb .idle where
  waitingState := by simp [none, notWaiting]
  waitingFrame _ some := by simp [none] at some
  woken _ blocked := by cases blocked
  timedOut _ blocked := by cases blocked

theorem waiting_set_of_idle (consistent : WaitConsistent tcb .idle) :
    tcb.waitingSignalSet = none := by
  cases waiting : tcb.waitingSignalSet with
  | none => rfl
  | some signalSet =>
      obtain ⟨_, blocked, _⟩ := consistent.waitingFrame signalSet waiting
      cases blocked

theorem waiting_set_of_runnable (consistent : WaitConsistent tcb call)
    (runnable : tcb.state = .runnable) : tcb.waitingSignalSet = none := by
  cases waiting : tcb.waitingSignalSet with
  | none => rfl
  | some _ => simpa [waiting, runnable] using consistent.waitingState

theorem add_pending (consistent : WaitConsistent tcb call) {pending : SignalSet}
    (more : Included tcb.pendingSignalSet pending) :
    WaitConsistent { tcb with pendingSignalSet := pending } call where
  waitingState := consistent.waitingState
  waitingFrame := consistent.waitingFrame
  woken frame blocked runnable reason :=
    (consistent.woken frame blocked runnable reason).imp_right fun saved => saved.trans more
  timedOut := consistent.timedOut

theorem set_pending (consistent : WaitConsistent tcb .idle) (pending : SignalSet) :
    WaitConsistent { tcb with pendingSignalSet := pending } .idle :=
  idle (fun waiting => by simpa [consistent.waiting_set_of_idle] using consistent.waitingState.2 waiting)
    consistent.waiting_set_of_idle

end WaitConsistent

namespace SignalWorld

/-- Every thread is consistent with its call. -/
def Consistent (w : SignalWorld n) : Prop :=
  ∀ thread, WaitConsistent (w.threads thread) (w.calls thread)

variable {w : SignalWorld n}

theorem Consistent.of_only (consistent : w.Consistent) {w' : SignalWorld n} (thread : Fin n)
    (threads : ∀ other, other ≠ thread → w'.threads other = w.threads other)
    (calls : ∀ other, other ≠ thread → w'.calls other = w.calls other)
    (here : WaitConsistent (w'.threads thread) (w'.calls thread)) : w'.Consistent := by
  intro other
  by_cases same : other = thread
  · subst same
    exact here
  · rw [threads other same, calls other same]
    exact consistent other

theorem Consistent.update_thread (consistent : w.Consistent) (thread : Fin n)
    {tcb : ThreadControlBlock} (here : WaitConsistent tcb (w.calls thread)) :
    { w with threads := Function.update w.threads thread tcb }.Consistent :=
  consistent.of_only thread (fun other ne => by simp [ne]) (fun _ _ => rfl) (by simpa using here)

theorem unblock_of_blocked {thread : Fin n} {frame : SignalWait}
    (blocked : w.calls thread = .blocked frame) (reason : UnblockReason) :
    w.unblock thread reason =
      { w with
        threads := Function.update w.threads thread
          { w.threads thread with
            waitingSignalSet := none
            state := .runnable
            unblockReason := reason }
        calls := Function.update w.calls thread
          (.blocked { frame with pendingSignalSet := (w.threads thread).pendingSignalSet }) } := by
  simp [unblock, blocked, signalsWaitUnblockFunctor]

theorem generate_signal_cases (target : Fin n) (signalNumber : Nat) :
    let pending := (w.threads target).pendingSignalSet ||| BitVec.twoPow 32 signalNumber
    let generated : SignalWorld n :=
      { w with
        threads := Function.update w.threads target
          { w.threads target with pendingSignalSet := pending } }
    (w.generateSignal target signalNumber).2 = w ∨
      ((w.generateSignal target signalNumber).2 = generated ∧
        ∀ waiting, (w.threads target).waitingSignalSet = some waiting →
          (w.threads target).state = .waitingForSignal → waiting &&& pending = 0) ∨
      ((∃ waiting, (w.threads target).waitingSignalSet = some waiting ∧
          waiting &&& pending ≠ 0) ∧
        (w.generateSignal target signalNumber).2 = generated.unblock target .unblockRequest) := by
  intro pending generated
  unfold generateSignal
  split_ifs
  · dsimp only
    split
    · rename_i waiting pointing
      split_ifs with wake
      · exact .inr (.inr ⟨⟨waiting, pointing, wake.2⟩, rfl⟩)
      · refine .inr (.inl ⟨rfl, fun other same waitingNow => ?_⟩)
        obtain rfl : waiting = other := Option.some.inj (pointing.symm.trans same)
        exact not_not.1 fun meets => wake ⟨waitingNow, meets⟩
    · rename_i pointing
      exact .inr (.inl ⟨rfl, fun _ same => absurd (pointing.symm.trans same) (by simp)⟩)
  · exact .inl rfl

theorem Consistent.unblock (consistent : w.Consistent) {thread : Fin n} {frame : SignalWait}
    (blocked : w.calls thread = .blocked frame) (reason : UnblockReason)
    (meets : reason = .unblockRequest →
      frame.signalSet &&& (w.threads thread).pendingSignalSet ≠ 0)
    (timed : reason = .timeout → ∃ timePoint, frame.timePoint = some timePoint) :
    (w.unblock thread reason).Consistent := by
  rw [unblock_of_blocked blocked]
  refine consistent.of_only thread (fun other ne => by simp [ne])
    (fun other ne => by simp [ne]) ⟨by simp, fun _ none => by simp at none, ?_, ?_⟩
  · intro unblocked same _ request
    simp only [Function.update_same, SignalCall.blocked.injEq] at same request ⊢
    subst same
    exact ⟨meets request, fun _ set => set⟩
  · intro unblocked same _ timeout
    simp only [Function.update_same, SignalCall.blocked.injEq] at same timeout ⊢
    subst same
    exact timed timeout

theorem Consistent.generate_signal (consistent : w.Consistent) (target : Fin n)
    (signalNumber : Nat) : (w.generateSignal target signalNumber).2.Consistent := by
  have generated := consistent.update_thread target
    ((consistent target).add_pending (included_or_left _ (BitVec.twoPow 32 signalNumber)))
  rcases generate_signal_cases target signalNumber (w := w) with
    same | ⟨same, -⟩ | ⟨⟨waiting, pointing, wake⟩, same⟩ <;> rw [same]
  · exact consistent
  · exact generated
  · obtain ⟨frame, blocked, rfl⟩ := (consistent target).waitingFrame waiting pointing
    exact generated.unblock blocked .unblockRequest (fun _ => by simpa using wake)
      (fun timeout => by cases timeout)

theorem accept_pending_signal_tcb (tcb : ThreadControlBlock) (signalNumber : Nat) :
    ∃ pending, (tcb.acceptPendingSignal signalNumber).2 = { tcb with pendingSignalSet := pending } := by
  unfold ThreadControlBlock.acceptPendingSignal
  split_ifs
  · exact ⟨_, rfl⟩
  · exact ⟨tcb.pendingSignalSet, rfl⟩

theorem accept_first_threads (thread other : Fin n) (intersection : SignalSet) :
    ∃ pending, (w.acceptFirst thread intersection).2.threads other =
      { w.threads other with pendingSignalSet := pending } := by
  by_cases same : other = thread
  · subst same
    obtain ⟨pending, accepted⟩ := accept_pending_signal_tcb (w.threads other) (firstSignal intersection)
    exact ⟨pending, by simp [acceptFirst, accepted]⟩
  · exact ⟨(w.threads other).pendingSignalSet, by simp [acceptFirst, same]⟩

theorem Consistent.accept_first (consistent : w.Consistent) {thread : Fin n}
    (idle : w.calls thread = .idle) (intersection : SignalSet) :
    (w.acceptFirst thread intersection).2.Consistent := by
  obtain ⟨pending, accepted⟩ := accept_pending_signal_tcb (w.threads thread) (firstSignal intersection)
  have here := consistent thread
  rw [idle] at here
  simp only [acceptFirst, accepted]
  exact consistent.update_thread thread (idle ▸ here.set_pending pending)

theorem Consistent.wait_implementation (consistent : w.Consistent) {thread : Fin n}
    (idle : w.calls thread = .idle) (signalSet : SignalSet) (nonBlocking : Bool)
    (timePoint : Option TimePoint) :
    (w.waitImplementation thread signalSet nonBlocking timePoint).2.Consistent := by
  unfold waitImplementation
  split_ifs
  · exact consistent
  · refine consistent.of_only thread (fun other ne => by simp [ne]) (fun other ne => by simp [ne])
      ⟨by simp, fun _ pointing => ?_, fun _ _ runnable => by simp at runnable,
        fun _ _ runnable => by simp at runnable⟩
    simp only [Function.update_same, Option.some.injEq] at pointing
    exact ⟨⟨signalSet, timePoint, (w.threads thread).pendingSignalSet⟩, by simp, pointing⟩
  · exact consistent.accept_first idle _

theorem Consistent.return_call (consistent : w.Consistent) {thread : Fin n}
    (runnable : (w.threads thread).state = .runnable) :
    { w with calls := Function.update w.calls thread .idle }.Consistent :=
  have here : WaitConsistent (w.threads thread) .idle :=
    WaitConsistent.idle (by simp [runnable]) ((consistent thread).waiting_set_of_runnable runnable)
  consistent.of_only thread (fun _ _ => rfl) (fun other ne => by simp [ne]) (by simpa using here)

theorem Consistent.resume (consistent : w.Consistent) (thread : Fin n) :
    (w.resume thread).1.Consistent := by
  unfold SignalWorld.resume
  split
  · split_ifs with runnable
    · exact consistent.return_call runnable
    · exact (consistent.return_call runnable).accept_first (by simp) _
    · exact consistent
  · exact consistent

theorem expire_cases (thread : Fin n) :
    w.expire thread = w ∨
      ∃ frame timePoint, w.calls thread = .blocked frame ∧ frame.timePoint = some timePoint ∧
        timePoint ≤ w.now ∧ w.expire thread = w.unblock thread .timeout := by
  unfold SignalWorld.expire
  split
  · rename_i frame blocked
    split
    · rename_i timePoint timed
      split_ifs with due
      · exact .inr ⟨frame, timePoint, blocked, timed, due.1, rfl⟩
      · exact .inl rfl
    · exact .inl rfl
  · exact .inl rfl

theorem Consistent.expire (consistent : w.Consistent) (thread : Fin n) :
    (w.expire thread).Consistent := by
  rcases expire_cases thread (w := w) with same | ⟨frame, timePoint, blocked, timed, -, same⟩ <;>
    rw [same]
  · exact consistent
  · exact consistent.unblock blocked .timeout (fun request => by cases request)
      fun _ => ⟨timePoint, timed⟩

theorem Consistent.call (consistent : w.Consistent) (thread : Fin n)
    {result : Option (Nat × Nat) × SignalWorld n}
    (entered : w.calls thread = .idle → result.2.Consistent) :
    (w.call thread result).1.Consistent := by
  unfold SignalWorld.call
  split_ifs with free
  · exact entered free.2
  · exact consistent

theorem Consistent.step (consistent : w.Consistent) :
    ∀ event, (w.step event).1.Consistent
  | .generateSignal target signalNumber => consistent.generate_signal target signalNumber
  | .wait thread _ | .tryWait thread _ | .tryWaitUntil thread _ _ | .tryWaitFor thread _ _ =>
      consistent.call thread fun idle => consistent.wait_implementation idle _ _ _
  | .resume thread => consistent.resume thread
  | .tick => consistent
  | .expire thread => consistent.expire thread

theorem Consistent.run (consistent : w.Consistent) (events : List (SignalEvent n)) :
    (w.run events).1.Consistent := by
  induction events generalizing w with
  | nil => exact consistent
  | cons event events ih => exact ih (consistent.step event)

theorem init_consistent (now : TimePoint) (threads : Fin n → ThreadControlBlock) :
    (init now threads).Consistent :=
  fun _ => WaitConsistent.idle (by simp [init]) rfl

theorem run_consistent (now : TimePoint) (threads : Fin n → ThreadControlBlock)
    (events : List (SignalEvent n)) : ((init now threads).run events).1.Consistent :=
  (init_consistent now threads).run events

theorem call_returned_entered {caller thread : Fin n}
    {result : Option (Nat × Nat) × SignalWorld n} {ret signalNumber : Nat}
    (returned : (w.call caller result).2 = some (.returned thread ret signalNumber)) :
    thread = caller ∧ w.calls caller = .idle ∧ result.1 = some (ret, signalNumber) ∧
      (w.call caller result).1 = result.2 := by
  by_cases free : (w.threads caller).state = .runnable ∧ w.calls caller = .idle
  · rw [SignalWorld.call, if_pos free] at returned ⊢
    cases output : result.1 with
    | none => simp [output] at returned
    | some pair =>
        simp only [output, Option.map_some', Option.some.injEq, SignalOutput.returned.injEq]
          at returned
        exact ⟨returned.1.symm, free.2, by rw [← returned.2.1, ← returned.2.2], rfl⟩
  · simp [SignalWorld.call, free] at returned

theorem wait_implementation_keeps_calls {thread : Fin n} {signalSet : SignalSet}
    {nonBlocking : Bool} {timePoint : Option TimePoint} {result : Nat × Nat}
    (returned : (w.waitImplementation thread signalSet nonBlocking timePoint).1 = some result) :
    (w.waitImplementation thread signalSet nonBlocking timePoint).2.calls = w.calls := by
  unfold waitImplementation at *
  split_ifs at returned ⊢ <;> rfl

theorem resume_returns (thread : Fin n) :
    (w.resume thread).2 = none ∨
      (w.resume thread).1.calls = Function.update w.calls thread .idle ∧
        ∃ ret signalNumber, (w.resume thread).2 = some (.returned thread ret signalNumber) := by
  unfold SignalWorld.resume
  split
  · split_ifs
    · exact .inr ⟨rfl, _, _, rfl⟩
    · exact .inr ⟨rfl, _, _, rfl⟩
    · exact .inl rfl
  · exact .inl rfl

theorem step_returned_idle {event : SignalEvent n} {thread : Fin n} {ret signalNumber : Nat}
    (returned : (w.step event).2 = some (.returned thread ret signalNumber)) :
    (w.step event).1.calls thread = .idle := by
  cases event with
  | wait caller signalSet | tryWait caller signalSet | tryWaitUntil caller signalSet _
  | tryWaitFor caller signalSet _ =>
      obtain ⟨rfl, idle, result, after⟩ := call_returned_entered returned
      rw [SignalWorld.step, after, wait_implementation_keeps_calls result]
      exact idle
  | resume caller =>
      rcases resume_returns caller (w := w) with none | ⟨calls, _, _, output⟩
      · simp [SignalWorld.step, none] at returned
      · simp only [SignalWorld.step, output, Option.some.injEq, SignalOutput.returned.injEq]
          at returned
        obtain ⟨rfl, -⟩ := returned
        simp [SignalWorld.step, calls]
  | generateSignal | tick | expire => simp [SignalWorld.step] at returned

/-- In every reachable state `waitingSignalSet_` is set exactly while the thread is
`WaitingForSignal`, it points to the signal set of the thread's pending call, and a step in which a
wait returns leaves it cleared. -/
theorem waiting_signal_set_tracks_pending_call (now : TimePoint)
    (threads : Fin n → ThreadControlBlock) (events : List (SignalEvent n)) (thread : Fin n) :
    let w := ((init now threads).run events).1
    ((w.threads thread).waitingSignalSet.isSome ↔ (w.threads thread).state = .waitingForSignal) ∧
      (∀ signalSet, (w.threads thread).waitingSignalSet = some signalSet →
        ∃ frame, w.calls thread = .blocked frame ∧ frame.signalSet = signalSet) ∧
      (∀ event ret signalNumber, (w.step event).2 = some (.returned thread ret signalNumber) →
        ((w.step event).1.threads thread).waitingSignalSet = none) := by
  intro w
  have consistent : w.Consistent := run_consistent now threads events
  refine ⟨(consistent thread).waitingState, (consistent thread).waitingFrame,
    fun event _ _ returned => ?_⟩
  have after := consistent.step event thread
  rw [step_returned_idle returned] at after
  exact after.waiting_set_of_idle

/-! ## No lost wake-up -/

/-- None of the signals a thread waits for is pending. -/
def Misses (tcb : ThreadControlBlock) : Prop :=
  ∀ signalSet, tcb.waitingSignalSet = some signalSet → signalSet &&& tcb.pendingSignalSet = 0

theorem misses_of_not_waiting {tcb : ThreadControlBlock} (none : tcb.waitingSignalSet = none) :
    Misses tcb :=
  fun _ some => by simp [none] at some

/-- No thread waits for a signal that is pending: no wake-up is lost. -/
def NoLostWakeup (w : SignalWorld n) : Prop :=
  ∀ thread, Misses (w.threads thread)

theorem NoLostWakeup.of_only (noLost : w.NoLostWakeup) {w' : SignalWorld n} (thread : Fin n)
    (threads : ∀ other, other ≠ thread → w'.threads other = w.threads other)
    (here : Misses (w'.threads thread)) : w'.NoLostWakeup := by
  intro other
  by_cases same : other = thread
  · subst same
    exact here
  · rw [threads other same]
    exact noLost other

theorem unblock_no_lost_wakeup {thread : Fin n} {frame : SignalWait}
    (blocked : w.calls thread = .blocked frame) (reason : UnblockReason)
    (others : ∀ other, other ≠ thread → Misses (w.threads other)) :
    (w.unblock thread reason).NoLostWakeup := by
  rw [unblock_of_blocked blocked reason]
  intro other
  by_cases same : other = thread
  · subst same
    exact misses_of_not_waiting (by simp)
  · simpa [same] using others other same

theorem NoLostWakeup.generate_signal (noLost : w.NoLostWakeup) (consistent : w.Consistent)
    (target : Fin n) (signalNumber : Nat) : (w.generateSignal target signalNumber).2.NoLostWakeup := by
  rcases generate_signal_cases target signalNumber (w := w) with
    same | ⟨same, misses⟩ | ⟨⟨waiting, pointing, -⟩, same⟩ <;> rw [same]
  · exact noLost
  · refine noLost.of_only target (fun other ne => by simp [ne]) fun signalSet pointing => ?_
    simp only [Function.update_same] at pointing ⊢
    exact misses signalSet pointing ((consistent target).waitingState.1 (by simp [pointing]))
  · obtain ⟨frame, blocked, -⟩ := (consistent target).waitingFrame waiting pointing
    apply unblock_no_lost_wakeup
    · exact blocked
    · exact fun other ne => by simpa [ne] using noLost other

theorem NoLostWakeup.accept_first (noLost : w.NoLostWakeup) {thread : Fin n}
    (none : (w.threads thread).waitingSignalSet = none) (intersection : SignalSet) :
    (w.acceptFirst thread intersection).2.NoLostWakeup := by
  obtain ⟨pending, accepted⟩ := accept_first_threads thread thread intersection
  refine noLost.of_only thread (fun other ne => by simp [acceptFirst, ne])
    (misses_of_not_waiting ?_)
  rw [accepted]
  exact none

theorem NoLostWakeup.wait_implementation (noLost : w.NoLostWakeup) (consistent : w.Consistent)
    {thread : Fin n} (idle : w.calls thread = .idle) (signalSet : SignalSet) (nonBlocking : Bool)
    (timePoint : Option TimePoint) :
    (w.waitImplementation thread signalSet nonBlocking timePoint).2.NoLostWakeup := by
  unfold waitImplementation
  split_ifs with miss
  · exact noLost
  · refine noLost.of_only thread (fun other ne => by simp [ne]) fun _ pointing => ?_
    simp only [Function.update_same, Option.some.injEq] at pointing ⊢
    exact pointing ▸ miss
  · have here := consistent thread
    rw [idle] at here
    exact noLost.accept_first here.waiting_set_of_idle _

theorem NoLostWakeup.resume (noLost : w.NoLostWakeup) (consistent : w.Consistent)
    (thread : Fin n) : (w.resume thread).1.NoLostWakeup := by
  unfold SignalWorld.resume
  split
  · split_ifs with runnable
    · exact noLost
    · exact NoLostWakeup.accept_first (w := { w with calls := Function.update w.calls thread .idle })
        noLost ((consistent thread).waiting_set_of_runnable runnable) _
    · exact noLost
  · exact noLost

theorem NoLostWakeup.expire (noLost : w.NoLostWakeup) (thread : Fin n) :
    (w.expire thread).NoLostWakeup := by
  rcases expire_cases thread (w := w) with same | ⟨frame, -, blocked, -, -, same⟩ <;> rw [same]
  · exact noLost
  · exact unblock_no_lost_wakeup blocked .timeout fun other _ => noLost other

theorem NoLostWakeup.call (noLost : w.NoLostWakeup) (thread : Fin n)
    {result : Option (Nat × Nat) × SignalWorld n}
    (entered : w.calls thread = .idle → result.2.NoLostWakeup) :
    (w.call thread result).1.NoLostWakeup := by
  unfold SignalWorld.call
  split_ifs with free
  · exact entered free.2
  · exact noLost

theorem NoLostWakeup.step (noLost : w.NoLostWakeup) (consistent : w.Consistent) :
    ∀ event, (w.step event).1.NoLostWakeup
  | .generateSignal target signalNumber => noLost.generate_signal consistent target signalNumber
  | .wait thread _ | .tryWait thread _ | .tryWaitUntil thread _ _ | .tryWaitFor thread _ _ =>
      noLost.call thread fun idle => noLost.wait_implementation consistent idle _ _ _
  | .resume thread => noLost.resume consistent thread
  | .tick => noLost
  | .expire thread => noLost.expire thread

theorem NoLostWakeup.run (noLost : w.NoLostWakeup) (consistent : w.Consistent)
    (events : List (SignalEvent n)) : (w.run events).1.NoLostWakeup := by
  induction events generalizing w with
  | nil => exact noLost
  | cons event events ih => exact ih (noLost.step consistent event) (consistent.step event)

/-- In every reachable state no thread waits for a signal that is pending, so a `generateSignal`
of a waited-for signal never leaves the waiter blocked. -/
theorem waiting_thread_misses_pending_signals (now : TimePoint)
    (threads : Fin n → ThreadControlBlock) (events : List (SignalEvent n)) :
    ((init now threads).run events).1.NoLostWakeup :=
  NoLostWakeup.run (fun _ => misses_of_not_waiting rfl) (init_consistent now threads) events

end SignalWorld

end Distortos
