import Distortos.Synchronization.SemaphoreInvariant

/-!
# Which waiter `post` unblocks

`post` unblocks the head of the blocked list, and the list is sorted by effective priority
(`Invariant.sorted`), so the head has the highest effective priority among the waiters. Within one
priority the order is that of insertion, as long as nobody's priority changes: `block` inserts a
thread behind every waiter of its own priority. A waiter whose effective priority changes is
repositioned, and when it is lowered without `alwaysBehind` it heads the group of its new priority,
in front of waiters of that priority that blocked before it.

The order is stated over a history computed beside the run: a stamp for the step at which each
thread blocked, and whether its effective priority has stayed the same since. The history reads
the kernel states of the run and changes none of them.
-/

namespace Distortos

set_option autoImplicit false

open Scheduler

variable {n : Nat}

/-- For every thread, the step at which it last blocked and whether its effective priority has
stayed the same since then. `clock` counts the steps. -/
structure History (n : Nat) where
  clock : Nat
  blockedAt : Fin n → Nat
  keptPriority : Fin n → Bool

namespace History

def init : History n := ⟨0, fun _ => 0, fun _ => false⟩

/-- `thread` entered a semaphore call that blocks, between `k` and `k'`. -/
def Entered (k k' : Kernel n) (thread : Fin n) : Prop :=
  k.calls thread = .idle ∧ k'.calls thread ≠ .idle

instance (k k' : Kernel n) : DecidablePred (Entered k k') :=
  fun _ => inferInstanceAs (Decidable (_ ∧ _))

/-- The history after a step from `k` to `k'`. -/
def observe (h : History n) (k k' : Kernel n) : History n where
  clock := h.clock + 1
  blockedAt thread := if Entered k k' thread then h.clock else h.blockedAt thread
  keptPriority thread :=
    if Entered k k' thread then true
    else h.keptPriority thread && Kernel.priorityOf k'.threads thread == Kernel.priorityOf k.threads thread

variable {h : History n} {k k' : Kernel n} {thread : Fin n}

theorem observe_blocked_at_of_not_entered (quiet : ¬Entered k k' thread) :
    (h.observe k k').blockedAt thread = h.blockedAt thread := if_neg quiet

theorem observe_kept_priority_of_not_entered (quiet : ¬Entered k k' thread)
    (kept : (h.observe k k').keptPriority thread) :
    h.keptPriority thread ∧ Kernel.priorityOf k'.threads thread = Kernel.priorityOf k.threads thread := by
  simpa [observe, quiet] using kept

end History

namespace Kernel

/-- The states and the history along a run: `history k h events` is `h` observed over the steps
of `k.run events`. -/
def history (k : Kernel n) (h : History n) : List (Event n) → History n
  | [] => h
  | event :: events => (k.step event).1.history (h.observe k (k.step event).1) events

/-- `a` ahead of `b` is in insertion order whenever both kept their priority and it is the same. -/
def InsertionOrder (k : Kernel n) (h : History n) (a b : Fin n) : Prop :=
  h.keptPriority a → h.keptPriority b → priorityOf k.threads a = priorityOf k.threads b →
    h.blockedAt a < h.blockedAt b

/-- Every waiter is stamped before the clock, and the blocked list is in insertion order among
waiters that kept their priority. -/
structure OrderInvariant (k : Kernel n) (h : History n) : Prop where
  stamped : ∀ thread ∈ k.semaphore.blockedList, h.blockedAt thread < h.clock
  ordered : k.semaphore.blockedList.Pairwise (InsertionOrder k h)

variable {h : History n} {k k' : Kernel n}

theorem quiet_of_calls (same : ∀ thread, k.calls thread = .idle → k'.calls thread = .idle) :
    ∀ thread, ¬History.Entered k k' thread :=
  fun thread entered => entered.2 (same thread entered.1)

theorem OrderInvariant.ordered_of_quiet (order : OrderInvariant k h) {list : List (Fin n)}
    (sublist : list.Sublist k.semaphore.blockedList)
    (quiet : ∀ thread ∈ list, ¬History.Entered k k' thread) :
    list.Pairwise (InsertionOrder k' (h.observe k k')) := by
  refine (order.ordered.sublist sublist).imp_of_mem
    fun {a b} memberA memberB before keptA keptB same => ?_
  obtain ⟨keptA, sameA⟩ := History.observe_kept_priority_of_not_entered (quiet a memberA) keptA
  obtain ⟨keptB, sameB⟩ := History.observe_kept_priority_of_not_entered (quiet b memberB) keptB
  rw [History.observe_blocked_at_of_not_entered (quiet a memberA),
    History.observe_blocked_at_of_not_entered (quiet b memberB)]
  exact before keptA keptB (by rw [← sameA, ← sameB, same])

theorem OrderInvariant.stamped_of_quiet (order : OrderInvariant k h)
    (quiet : ∀ thread, ¬History.Entered k k' thread)
    (within : ∀ thread ∈ k'.semaphore.blockedList, thread ∈ k.semaphore.blockedList) :
    ∀ thread ∈ k'.semaphore.blockedList, (h.observe k k').blockedAt thread < h.clock + 1 := by
  intro thread member
  rw [History.observe_blocked_at_of_not_entered (quiet thread)]
  exact Nat.lt_succ_of_lt (order.stamped thread (within thread member))

theorem OrderInvariant.of_quiet (order : OrderInvariant k h)
    (quiet : ∀ thread, ¬History.Entered k k' thread)
    (sublist : k'.semaphore.blockedList.Sublist k.semaphore.blockedList) :
    OrderInvariant k' (h.observe k k') :=
  ⟨order.stamped_of_quiet quiet fun _ member => sublist.subset member,
    order.ordered_of_quiet sublist fun thread _ => quiet thread⟩

theorem block_order_invariant (inv : k.Invariant) (order : OrderInvariant k h) {thread : Fin n}
    (idle : k.calls thread = .idle) (timePoint : Option TimePoint) :
    OrderInvariant (k.block thread timePoint) (h.observe k (k.block thread timePoint)) := by
  have fresh : thread ∉ k.semaphore.blockedList := fun member =>
    ((inv.blockedMembers thread).1 member).1 idle
  have entered : ∀ other, History.Entered k (k.block thread timePoint) other ↔ other = thread := by
    intro other
    by_cases same : other = thread
    · subst same
      simp [History.Entered, block, idle]
    · simp [History.Entered, block, same]
  have quiet : ∀ a ∈ k.semaphore.blockedList, ¬History.Entered k (k.block thread timePoint) a :=
    fun a member here => fresh ((entered a).1 here ▸ member)
  have stampOld : ∀ a ∈ k.semaphore.blockedList,
      (h.observe k (k.block thread timePoint)).blockedAt a = h.blockedAt a := fun a member =>
    History.observe_blocked_at_of_not_entered (quiet a member)
  have stampNew : (h.observe k (k.block thread timePoint)).blockedAt thread = h.clock :=
    if_pos ((entered thread).2 rfl)
  constructor
  · intro a member
    rcases (mem_sorted_insert _ _ _ _ a).1 member with rfl | old
    · rw [stampNew]
      exact Nat.lt_succ_self _
    · rw [stampOld a old]
      exact Nat.lt_succ_of_lt (order.stamped a old)
  · refine pairwise_sorted_insert (order.ordered_of_quiet (List.Sublist.refl _) quiet) inv.sorted
      (fun a member _ _ _ _ => ?_) (fun a _ lower _ _ same => ?_)
    · rw [stampOld a member, stampNew]
      exact order.stamped a member
    · rw [priority_of_block] at same
      exact absurd same (Nat.ne_of_gt lower)

theorem change_priority_order_invariant (order : OrderInvariant k h) (thread : Fin n)
    (tcb : ThreadControlBlock) (loweringBefore : Bool) :
    OrderInvariant (k.changePriority thread tcb loweringBefore)
      (h.observe k (k.changePriority thread tcb loweringBefore)) := by
  have quiet : ∀ other, ¬History.Entered k (k.changePriority thread tcb loweringBefore) other :=
    quiet_of_calls (by simp)
  have list := change_priority_blocked_list k thread tcb loweringBefore
  split_ifs at list with moved
  · have dropped : ¬(h.observe k (k.changePriority thread tcb loweringBefore)).keptPriority thread :=
      fun kept => moved.1
        (by simpa [priorityOf] using (History.observe_kept_priority_of_not_entered (quiet thread) kept).2.symm)
    refine ⟨order.stamped_of_quiet quiet fun a member => ?_, ?_⟩
    · rw [list] at member
      exact (reposition_perm _ _ _ moved.2).subset member
    · rw [list]
      exact pairwise_sorted_insert_of_related
        (order.ordered_of_quiet (List.erase_sublist _ _) fun a _ => quiet a)
        (fun _ _ _ kept => absurd kept dropped) (fun _ _ kept => absurd kept dropped)
  · exact order.of_quiet quiet (list ▸ List.Sublist.refl _)

theorem Transition.order_invariant {output : Option (Output n)} (transition : Transition k k' output)
    (inv : k.Invariant) (order : OrderInvariant k h) : OrderInvariant k' (h.observe k k') := by
  have keep : ∀ thread, ¬History.Entered k k thread := quiet_of_calls fun _ => id
  cases transition with
  | stutter | overflow _ | refuse _ _ => exact order.of_quiet keep (List.Sublist.refl _)
  | increment _ _ | take _ _ | tick => exact order.of_quiet keep (List.Sublist.refl _)
  | handOver _ _ | expire _ => exact order.of_quiet keep (List.erase_sublist _ _)
  | block idle _ => exact block_order_invariant inv order idle _
  | @resume thread _ _ _ =>
      refine order.of_quiet (quiet_of_calls fun other idle => ?_) (List.Sublist.refl _)
      by_cases same : other = thread
      · subst same
        simp
      · simpa [same] using idle
  | changePriority _ _ => exact change_priority_order_invariant order _ _ _

theorem run_order_invariant (inv : k.Invariant) (order : OrderInvariant k h)
    (events : List (Event n)) : OrderInvariant (k.run events).1 (k.history h events) := by
  induction events generalizing k h with
  | nil => exact order
  | cons event events ih =>
      have transition := step_transition k event
      exact ih (transition.invariant inv) (transition.order_invariant inv order)

theorem init_order_invariant (now : TimePoint) (threads : Fin n → ThreadControlBlock)
    (value maxValue : Semaphore.Value) : OrderInvariant (init now threads value maxValue) History.init :=
  ⟨by simp [init, Semaphore.create], List.Pairwise.nil⟩

/-- From `Semaphore(value, maxValue)` with a maximum of at least one, after any interleaving of
calls, expiries and priority changes, `post` on a non-empty blocked list unblocks its head: a
waiter of the highest effective priority, which, if its effective priority has not changed since
it blocked, blocked before every other such waiter of the same priority. -/
theorem post_unblocks_highest_priority_waiter (now : TimePoint)
    (threads : Fin n → ThreadControlBlock) (value maxValue : Semaphore.Value)
    (events : List (Event n)) {waiter : Fin n} {rest : List (Fin n)}
    (atLeastOne : 1 ≤ maxValue.toNat)
    (waiting : ((init now threads value maxValue).run events).1.semaphore.blockedList =
      waiter :: rest) :
    let k := ((init now threads value maxValue).run events).1
    let h := (init now threads value maxValue).history History.init events
    k.post = (0, k.unblock waiter .unblockRequest) ∧
      (∀ other ∈ rest, priorityOf k.threads other ≤ priorityOf k.threads waiter) ∧
      (h.keptPriority waiter → ∀ other ∈ rest, h.keptPriority other →
        priorityOf k.threads other = priorityOf k.threads waiter →
        h.blockedAt waiter < h.blockedAt other) := by
  have start := init_invariant now threads value maxValue
  have inv := run_invariant start events
  have order := run_order_invariant start (init_order_invariant now threads value maxValue) events
  have sorted := inv.sorted
  have ordered := order.ordered
  rw [waiting, List.pairwise_cons] at sorted ordered
  refine ⟨inv.post_of_waiter ((run_max_value _ events).symm ▸ atLeastOne) waiting, sorted.1,
    fun kept other member keptOther same => ordered.1 other member kept keptOther same.symm⟩

def loweringThreads : Fin 2 → ThreadControlBlock :=
  fun thread => ⟨if thread = 0 then 5 else 7, 0, .runnable, .unblockRequest, 0, none⟩

/-- Both threads block in `wait`, then thread `1` is lowered to priority 5 with
`alwaysBehind = false`. -/
def loweringEvents : List (Event 2) :=
  [.wait 0, .wait 1, .setPriority 1 5 false]

def equalThreads : Fin 2 → ThreadControlBlock :=
  fun _ => ⟨5, 0, .runnable, .unblockRequest, 0, none⟩

theorem post_unblocks_lowered_or_earlier_waiter :
    (1 ≤ (1 : Semaphore.Value).toNat ∧
      ((init 0 loweringThreads 0 1).run loweringEvents).1.semaphore.blockedList = [1, 0] ∧
      (let k := ((init 0 loweringThreads 0 1).run loweringEvents).1
       let h := (init 0 loweringThreads 0 1).history History.init loweringEvents
       k.post = (0, k.unblock 1 .unblockRequest) ∧
        (∀ other ∈ [(0 : Fin 2)], priorityOf k.threads other ≤ priorityOf k.threads 1) ∧
        (h.keptPriority 1 → ∀ other ∈ [(0 : Fin 2)], h.keptPriority other →
          priorityOf k.threads other = priorityOf k.threads 1 →
          h.blockedAt 1 < h.blockedAt other))) ∧
    (((init 0 equalThreads 0 1).run [.wait 0, .wait 1]).1.semaphore.blockedList = [0, 1] ∧
      (let k := ((init 0 equalThreads 0 1).run [.wait 0, .wait 1]).1
       let h := (init 0 equalThreads 0 1).history History.init [.wait 0, .wait 1]
       k.post = (0, k.unblock 0 .unblockRequest) ∧ h.keptPriority 0 = true ∧
        h.keptPriority 1 = true ∧ h.blockedAt 0 < h.blockedAt 1)) :=
  have earlier := post_unblocks_highest_priority_waiter 0 equalThreads 0 1 [.wait 0, .wait 1]
    (by decide) (show _ = [0, 1] by decide)
  ⟨⟨by decide, by decide,
    post_unblocks_highest_priority_waiter 0 loweringThreads 0 1 loweringEvents (by decide)
      (by decide)⟩,
    by decide, earlier.1, by decide, by decide,
    earlier.2.2 (by decide) 1 (by simp) (by decide) (by decide)⟩

/-- After `loweringEvents`, thread `1` heads the list and `post` unblocks it, passing over thread
`0`: same effective priority, unchanged since it blocked, and blocked first. On
`Semaphore(0, 0)` a waiter is never unblocked: `post` finds it and returns `EOVERFLOW`. -/
theorem post_passes_over_earlier_unchanged_waiter :
    let k := ((init 0 loweringThreads 0 1).run loweringEvents).1
    let h := (init 0 loweringThreads 0 1).history History.init loweringEvents
    (k.semaphore.blockedList = [1, 0] ∧ k.post.1 = 0 ∧ k.post.2.semaphore.blockedList = [0] ∧
      priorityOf k.threads 0 = 5 ∧ priorityOf k.threads 1 = 5 ∧
      h.keptPriority 0 = true ∧ h.keptPriority 1 = false ∧ h.blockedAt 0 < h.blockedAt 1) ∧
    (((init 0 loweringThreads 0 0).run [.wait 0]).1.post.1 = EOVERFLOW ∧
      ((init 0 loweringThreads 0 0).run [.wait 0]).1.post.2.semaphore.blockedList = [0]) := by
  decide

end Kernel

end Distortos
