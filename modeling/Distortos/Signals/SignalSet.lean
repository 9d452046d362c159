import Distortos.Scheduler.ThreadControlBlock

/-!
# Signal sets and the lowest set bit

`SignalSet` wraps a `std::bitset<32>`. `waitImplementation` picks the signal to accept with
`__builtin_ffsl(intersection.to_ulong()) - 1`; `ffsl` scans the 32 bits from the least significant
one. `IsLowestSignal` says what the scan finds: a set bit below 32 with every lower bit clear.
-/

namespace Distortos

set_option autoImplicit false

/-- `__builtin_ffsl` over the bits `index, index + 1, ...`, at most `fuel` of them. -/
def findFirstSetFrom (value : SignalSet) : Nat → Nat → Nat
  | 0, _ => 0
  | fuel + 1, index =>
      if value.getLsbD index then index + 1 else findFirstSetFrom value fuel (index + 1)

/-- `__builtin_ffsl(value.to_ulong())`: one plus the index of the least significant set bit, `0`
when no bit is set. -/
def ffsl (value : SignalSet) : Nat :=
  findFirstSetFrom value 32 0

/-- `signalNumber` is the lowest signal of `value`. -/
def IsLowestSignal (value : SignalSet) (signalNumber : Nat) : Prop :=
  signalNumber < 32 ∧ value.getLsbD signalNumber = true ∧
    ∀ lower, lower < signalNumber → value.getLsbD lower = false

/-- The scan from `index` finds the first set bit it passes, or returns `0` having passed none. -/
theorem find_first_set_from_spec (value : SignalSet) (fuel index : Nat) :
    (findFirstSetFrom value fuel index = 0 ∧
        ∀ bit, index ≤ bit → bit < index + fuel → value.getLsbD bit = false) ∨
      ∃ found, findFirstSetFrom value fuel index = found + 1 ∧ index ≤ found ∧
        found < index + fuel ∧ value.getLsbD found = true ∧
        ∀ bit, index ≤ bit → bit < found → value.getLsbD bit = false := by
  induction fuel generalizing index with
  | zero => exact .inl ⟨rfl, fun _ _ _ => by omega⟩
  | succ fuel ih =>
      simp only [findFirstSetFrom]
      by_cases here : value.getLsbD index
      · exact .inr ⟨index, by simp [here], le_rfl, by omega, here, fun _ _ _ => by omega⟩
      · simp only [here, if_false, Bool.false_eq_true]
        rcases ih (index + 1) with ⟨none, clear⟩ | ⟨found, result, above, below, set, clear⟩
        · refine .inl ⟨none, fun bit low high => ?_⟩
          rcases Nat.eq_or_lt_of_le low with rfl | later
          · simpa using here
          · exact clear bit later (by omega)
        · refine .inr ⟨found, result, by omega, by omega, set, fun bit low high => ?_⟩
          rcases Nat.eq_or_lt_of_le low with rfl | later
          · simpa using here
          · exact clear bit later high

theorem eq_zero_of_bits_clear {value : SignalSet}
    (clear : ∀ bit, bit < 32 → value.getLsbD bit = false) : value = 0 :=
  BitVec.eq_of_getLsbD_eq fun bit => by simpa using clear bit bit.isLt

/-- On a nonempty set, `ffsl - 1` is the lowest signal. -/
theorem ffsl_lowest {value : SignalSet} (nonempty : value ≠ 0) :
    1 ≤ ffsl value ∧ IsLowestSignal value (ffsl value - 1) := by
  rcases find_first_set_from_spec value 32 0 with ⟨_, clear⟩ | ⟨found, result, _, below, set, clear⟩
  · exact absurd (eq_zero_of_bits_clear fun bit high => clear bit (Nat.zero_le _) high) nonempty
  · rw [ffsl, result]
    exact ⟨by omega, below, set, fun lower low => clear lower (Nat.zero_le _) (by omega)⟩

/-- Every signal of `part` is in `whole`. -/
def Included (part whole : SignalSet) : Prop :=
  ∀ bit, part.getLsbD bit = true → whole.getLsbD bit = true

theorem included_and_right (part whole : SignalSet) : Included (part &&& whole) whole :=
  fun bit set => by simp_all

theorem included_or_left (part other : SignalSet) : Included part (part ||| other) :=
  fun bit set => by simp [set]

theorem Included.trans {first second third : SignalSet} (inner : Included first second)
    (outer : Included second third) : Included first third :=
  fun bit set => outer bit (inner bit set)

theorem get_clear_signal (pending : SignalSet) {signalNumber : Nat} (bound : signalNumber < 32)
    (bit : Nat) :
    (pending &&& ~~~(BitVec.twoPow 32 signalNumber)).getLsbD bit =
      (decide (bit ≠ signalNumber) && pending.getLsbD bit) := by
  by_cases high : bit < 32
  · by_cases same : bit = signalNumber
    · simp [same, bound]
    · simp [high, same, Ne.symm same]
  · simp [BitVec.getLsbD_ge pending bit (by omega)]

theorem two_pow_and_of_pending {pending : SignalSet} {signalNumber : Nat}
    (set : pending.getLsbD signalNumber = true) :
    BitVec.twoPow 32 signalNumber &&& pending = BitVec.twoPow 32 signalNumber :=
  BitVec.eq_of_getLsbD_eq fun bit => by
    by_cases same : signalNumber = bit.val
    · simp [← same, set]
    · simp [same]

theorem clear_added_signal_iff (pending : SignalSet) {signalNumber : Nat}
    (bound : signalNumber < 32) :
    (pending ||| BitVec.twoPow 32 signalNumber) &&& ~~~(BitVec.twoPow 32 signalNumber) = pending ↔
      pending.getLsbD signalNumber = false := by
  constructor
  · intro same
    have bit := congrArg (fun value => BitVec.getLsbD value signalNumber) same
    simpa [get_clear_signal _ bound] using bit.symm
  · intro clear
    refine BitVec.eq_of_getLsbD_eq fun bit => ?_
    rw [get_clear_signal _ bound]
    by_cases same : bit.val = signalNumber
    · simp [same, clear]
    · simp [same, Ne.symm same]

theorem clear_added_signal (pending : SignalSet) (signalNumber : Nat) :
    (pending ||| BitVec.twoPow 32 signalNumber) &&& ~~~(BitVec.twoPow 32 signalNumber) =
      pending &&& ~~~(BitVec.twoPow 32 signalNumber) :=
  BitVec.eq_of_getLsbD_eq fun bit => by
    simp only [BitVec.getLsbD_and, BitVec.getLsbD_or, BitVec.getLsbD_not]
    cases pending.getLsbD bit <;> simp

/-- A signal number stored in a `uint8_t`: `signalNumber mod 256`. -/
def toUInt8 (signalNumber : Nat) : Nat :=
  signalNumber % 256

/-- The `uint8_t` that `__builtin_ffsl(value) - 1` becomes: `255` for an empty set. -/
def firstSignal (value : SignalSet) : Nat :=
  toUInt8 (ffsl value + 255)

theorem first_signal_lowest {value : SignalSet} (nonempty : value ≠ 0) :
    IsLowestSignal value (firstSignal value) := by
  obtain ⟨positive, lowest⟩ := ffsl_lowest nonempty
  have bound := lowest.1
  have same : firstSignal value = ffsl value - 1 := by
    unfold firstSignal toUInt8
    omega
  rw [same]
  exact lowest

theorem first_signal_two_pow {signalNumber : Nat} (bound : signalNumber < 32) :
    firstSignal (BitVec.twoPow 32 signalNumber) = signalNumber := by
  have nonempty : BitVec.twoPow 32 signalNumber ≠ 0 := fun zero => by
    simpa [bound] using congrArg (fun value => BitVec.getLsbD value signalNumber) zero
  obtain ⟨-, set, -⟩ := first_signal_lowest nonempty
  simp only [BitVec.getLsbD_twoPow, Bool.and_eq_true, decide_eq_true_eq] at set
  exact set.2.symm

example : firstSignal 0 = 255 := by decide

example : firstSignal 0b101000 = 3 := by decide

end Distortos
