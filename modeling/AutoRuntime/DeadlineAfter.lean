import AutoRuntime.DdsRpcWire

/-! `Deadline::After` on durations of any period. The duration is converted to ticks of the clock
before it is compared with the time that is left, and nothing guards the conversion. -/
namespace AutoRuntime

open Chrono

inductive Period where
  | nanoseconds | microseconds | milliseconds | seconds | minutes | hours
  deriving DecidableEq, Repr

/-- The ticks of the clock in one period. -/
def Period.ticks : Period → Int
  | .nanoseconds => 1
  | .microseconds => 1000
  | .milliseconds => 1000000
  | .seconds => 1000000000
  | .minutes => 60000000000
  | .hours => 3600000000000

/-- `duration_cast` to the duration of the clock. -/
def Period.cast (period : Period) (count : Int) : Int := wrap (count * period.ticks)

/-- `Deadline::After` -/
def Deadline.after (period : Period) (count now : Int) : Deadline := DdsRpc.deadlineAfter (period.cast count) now

/-- The second deadline does not come before the first. -/
def Deadline.NotAfter (first second : Deadline) : Prop :=
  second.isInfinite = true ∨ first.isInfinite = false ∧ first.timePoint ≤ second.timePoint

instance (first second : Deadline) : Decidable (first.NotAfter second) :=
  inferInstanceAs (Decidable (_ ∨ _ ∧ _))

/-- The deadline is ahead, and where the sum has a time point it is that one. -/
structure Saturates (period : Period) (count now : Int) : Prop where
  ahead : (Deadline.after period count now).expired now = false
  sum : Deadline.after period count now = .infinite ∧ 2^63 ≤ now + count * period.ticks ∨
    Deadline.after period count now = ⟨false,now + count * period.ticks⟩

theorem Period.ticks_pos (period : Period) : 0 < period.ticks := by
  cases period <;> decide

theorem Period.cast_exact {period : Period} (positive : 0 < count) (short : count * period.ticks < 2^63) :
    period.cast count = count * period.ticks := by
  have product := Int.mul_pos positive period.ticks_pos
  exact wrap_exact ⟨by omega,short⟩

section

variable {duration now : Int} (started : 0 ≤ now) (reading : now < 2^63)

include started reading

theorem deadlineAfter_eq (positive : 0 < duration) : DdsRpc.deadlineAfter duration now =
    if 2^63 ≤ now + duration then .infinite else ⟨false,now + duration⟩ := by
  have left : elapsed (2^63 - 1) now = 2^63 - 1 - now := wrap_exact ⟨by omega,by omega⟩
  simp only [DdsRpc.deadlineAfter,if_neg (Int.not_le.mpr positive)]
  exact if_congr (by omega) rfl rfl

/-- A longer duration never yields an earlier deadline. -/
theorem deadlineAfter_mono (positive : 0 < shorter) (longer : shorter ≤ duration) :
    (DdsRpc.deadlineAfter shorter now).NotAfter (DdsRpc.deadlineAfter duration now) := by
  rw [deadlineAfter_eq started reading positive,deadlineAfter_eq started reading (by omega)]
  by_cases beyond : 2^63 ≤ now + duration
  · rw [if_pos beyond]
    exact .inl rfl
  · rw [if_neg beyond,if_neg (by omega)]
    exact .inr ⟨rfl,Int.add_le_add_left longer now⟩

theorem deadlineAfter_ahead (positive : 0 < duration) : (DdsRpc.deadlineAfter duration now).expired now = false := by
  rw [deadlineAfter_eq started reading positive]
  split
  · rfl
  · simp only [Deadline.expired,Bool.not_false,Bool.true_and,decide_eq_false_iff_not]
    omega

theorem Saturates.of_short {period : Period} (positive : 0 < count) (short : count * period.ticks < 2^63) :
    Saturates period count now := by
  have product := Int.mul_pos positive period.ticks_pos
  have exact_ : Deadline.after period count now = DdsRpc.deadlineAfter (count * period.ticks) now := by
    rw [Deadline.after,Period.cast_exact positive short]
  refine ⟨exact_ ▸ deadlineAfter_ahead started reading product,?_⟩
  rw [exact_,deadlineAfter_eq started reading product]
  split
  next beyond => exact .inl ⟨rfl,beyond⟩
  · exact .inr rfl

/-- A deadline that is ahead is exact, or the ticks have wrapped and the clock does not reach them. -/
theorem Saturates.short {period : Period} (saturates : Saturates period count now) :
    count * period.ticks < 2^63 ∨ 2^63 ≤ now + period.cast count := by
  by_contra neither
  obtain ⟨long,within⟩ := not_or.mp neither
  have ahead := saturates.ahead
  have sum := saturates.sum
  simp only [Deadline.after] at ahead sum
  by_cases positive : 0 < period.cast count
  · rw [deadlineAfter_eq started reading positive,if_neg within] at sum
    simp [Deadline.infinite] at sum
    omega
  · simp [DdsRpc.deadlineAfter,if_pos (Int.not_lt.mp positive),Deadline.expired] at ahead

end

/-- `Deadline::After` saturates where the duration has a count of ticks, and where the count that it
wraps to leaves the clock as well. -/
theorem after_saturates_iff (period : Period) (positive : 0 < count) (started : 0 ≤ now) (reading : now < 2^63) :
    (Saturates period count now ∧ ∀ (other : Period) (fewer : Int), 0 < fewer →
      fewer * other.ticks ≤ count * period.ticks →
        (Deadline.after other fewer now).NotAfter (Deadline.after period count now)) ↔
      count * period.ticks < 2^63 ∨ 2^63 ≤ now + period.cast count := by
  constructor
  · exact fun holds => holds.1.short started reading
  · rintro (short | beyond)
    · refine ⟨.of_short started reading positive short,fun other fewer some less => ?_⟩
      rw [Deadline.after,Deadline.after,Period.cast_exact some (Int.lt_of_le_of_lt less short),
        Period.cast_exact positive short]
      exact deadlineAfter_mono started reading (Int.mul_pos some other.ticks_pos) less
    · have infinite : Deadline.after period count now = .infinite := by
        rw [Deadline.after,deadlineAfter_eq started reading (by omega),if_pos beyond]
      have long : 2^63 ≤ now + count * period.ticks := by
        have product := Int.mul_pos positive period.ticks_pos
        have wrapped : period.cast count ≤ count * period.ticks := wrap_le (by omega)
        omega
      refine ⟨⟨by rw [infinite]; rfl,.inl ⟨infinite,long⟩⟩,fun other fewer _ _ => ?_⟩
      rw [infinite]
      exact .inl rfl

theorem after_saturates_second : Saturates .seconds 1 5 ∧ Deadline.after .seconds 1 5 = ⟨false,1000000005⟩ :=
  ⟨((after_saturates_iff .seconds (by decide) (by decide) (by decide)).mpr (.inl (by decide))).1,by decide⟩

/-- 342 years from now are over now. -/
theorem after_hours_over : Deadline.after .hours 3000000 0 = ⟨false,0⟩ ∧
    (Deadline.after .hours 3000000 0).expired 0 = true ∧ (3000000 : Int) * Period.ticks .hours ≥ 2^63 ∧
      ¬(Deadline.after .hours 1 0).NotAfter (Deadline.after .hours 3000000 0) := by
  decide

end AutoRuntime
