import Mathlib.Tactic.NormNum
import Mathlib.Algebra.Order.Field.Rat

/-!
# Tick clock and the deadline of a timed wait

`TickClock` counts ticks in a `uint64_t`, so its `time_point` and `duration` are 64-bit words.
Every `tryWaitFor` of the sources (`Semaphore::tryWaitFor`, `ThisThread::Signals::tryWaitFor`)
hands `TickClock::now() + duration + TickClock::duration{1}` to its `tryWaitUntil`, computed in
that unsigned arithmetic. The `std::chrono` overloads of `FifoQueue::tryPopFor`, `tryPushFor` and
`tryEmplaceFor` first `duration_cast` their argument to ticks and then take the same path.

The `+ 1` rounds a wait up to whole ticks. It does so only while the sum stays below `2 ^ 64` and
the duration is a whole number of ticks: a wrapped sum puts the deadline at or before `now`, and
the cast rounds a fractional duration down before the `+ 1` is added.
-/

namespace Distortos

set_option autoImplicit false

/-- `TickClock::time_point`: a tick count, `TickClock::rep = uint64_t`. -/
abbrev TimePoint := BitVec 64

/-- `TickClock::duration`: a number of ticks in the same `uint64_t` representation. -/
abbrev Duration := BitVec 64

/-- The time point `tryWaitFor(duration)` waits until:
`TickClock::now() + duration + TickClock::duration{1}`. -/
def tryWaitForTimePoint (now : TimePoint) (duration : Duration) : TimePoint :=
  now + duration + 1

theorem try_wait_for_time_point_to_nat (now : TimePoint) (duration : Duration) :
    (tryWaitForTimePoint now duration).toNat = (now.toNat + duration.toNat + 1) % 2 ^ 64 := by
  simp only [tryWaitForTimePoint, BitVec.toNat_add, Nat.add_mod_mod, Nat.mod_add_mod]
  rfl

theorem try_wait_for_time_point_exact (now : TimePoint) (duration : Duration)
    (noWrap : now.toNat + duration.toNat + 1 < 2 ^ 64) :
    (tryWaitForTimePoint now duration).toNat = now.toNat + duration.toNat + 1 := by
  rw [try_wait_for_time_point_to_nat, Nat.mod_eq_of_lt noWrap]

theorem try_wait_for_time_point_wrapped (now : TimePoint) (duration : Duration)
    (wrap : 2 ^ 64 ≤ now.toNat + duration.toNat + 1) :
    (tryWaitForTimePoint now duration).toNat = now.toNat + duration.toNat + 1 - 2 ^ 64 ∧
      (tryWaitForTimePoint now duration).toNat ≤ now.toNat := by
  have below : now.toNat + duration.toNat + 1 - 2 ^ 64 < 2 ^ 64 := by
    have := duration.isLt
    omega
  have sum : (tryWaitForTimePoint now duration).toNat = now.toNat + duration.toNat + 1 - 2 ^ 64 := by
    rw [try_wait_for_time_point_to_nat, Nat.mod_eq_sub_mod wrap, Nat.mod_eq_of_lt below]
  have := duration.isLt
  exact ⟨sum, by omega⟩

/-- `tryWaitFor` waits until exactly `now + duration + 1` if and only if that sum is below
`2 ^ 64`; past it the deadline wraps to a tick no later than `now`. -/
theorem try_wait_for_deadline_exact_iff_no_wrap (now : TimePoint) (duration : Duration) :
    ((tryWaitForTimePoint now duration).toNat = now.toNat + duration.toNat + 1 ↔
        now.toNat + duration.toNat + 1 < 2 ^ 64) ∧
      (2 ^ 64 ≤ now.toNat + duration.toNat + 1 →
        (tryWaitForTimePoint now duration).toNat ≤ now.toNat) := by
  refine ⟨⟨fun exact => ?_, try_wait_for_time_point_exact now duration⟩,
    fun wrap => (try_wait_for_time_point_wrapped now duration wrap).2⟩
  by_contra wrap
  have early := (try_wait_for_time_point_wrapped now duration (Nat.le_of_not_lt wrap)).2
  omega

/-- A `std::chrono::duration<Rep, Period>` with an integral `Rep` of at most 64 bits, signed or
not: `count` ticks of `Period`, where `num / den` is `ratio_divide<Period, TickClock::period>`, the
factor `duration_cast` converts by. -/
structure ChronoDuration where
  count : Int
  num : Nat
  den : Nat

/-- The length of a `ChronoDuration` in `TickClock` ticks, as an exact number. -/
def ChronoDuration.ticks (duration : ChronoDuration) : ℚ :=
  duration.count * duration.num / duration.den

/-- `std::chrono::duration_cast<TickClock::duration>` as libstdc++'s `__duration_cast_impl` computes
it: `count`, `num` and `den` are converted to the common type of `uint64_t`, `Rep` and `intmax_t`,
which is `uint64_t`, and `count * num / den` is computed there, the product wrapping modulo
`2 ^ 64` and the quotient rounded down. The cases `num == 1` and `den == 1` skip a factor of one and
give the same value. -/
def durationCast (duration : ChronoDuration) : Duration :=
  BitVec.ofInt 64 duration.count * BitVec.ofNat 64 duration.num / BitVec.ofNat 64 duration.den

example : durationCast ⟨2 ^ 62, 300, 7⟩ = 0 := by decide

example : durationCast ⟨-1, 1, 1⟩ = BitVec.allOnes 64 := by decide

/-- Modelled from the spec: `FifoQueue::tryPopFor<Rep, Period>` (and `tryPushFor`,
`tryEmplaceFor`) casts its duration and passes it through `SemaphoreTryWaitForFunctor` and
`FifoQueueBase`, whose sources are not under src/, to `Semaphore::tryWaitFor`; this is the
time point that semaphore wait gets. -/
def chronoTryWaitForTimePoint (now : TimePoint) (duration : ChronoDuration) : TimePoint :=
  tryWaitForTimePoint now (durationCast duration)

/-- `tryWaitFor(TickClock::duration::max())` wraps to a deadline equal to `now`, and a duration
of half a tick (five milliseconds at a 100 Hz tick) is cast to zero ticks, so its deadline is one
tick after `now`, short of `now + duration + 1`. -/
theorem try_wait_for_deadline_falls_short :
    (tryWaitForTimePoint 5 (BitVec.allOnes 64)).toNat = 5 ∧
      (5 : TimePoint).toNat + (BitVec.allOnes 64 : Duration).toNat + 1 = 2 ^ 64 + 5 ∧
      (chronoTryWaitForTimePoint 0 ⟨5, 1, 10⟩).toNat = 1 ∧
      ((chronoTryWaitForTimePoint 0 ⟨5, 1, 10⟩).toNat : ℚ) <
        (0 : TimePoint).toNat + ChronoDuration.ticks ⟨5, 1, 10⟩ + 1 := by
  refine ⟨by decide, by decide, by decide, ?_⟩
  have deadline : (chronoTryWaitForTimePoint 0 ⟨5, 1, 10⟩).toNat = 1 := by decide
  have start : (0 : TimePoint).toNat = 0 := rfl
  rw [deadline, start]
  norm_num [ChronoDuration.ticks]

end Distortos
