import Mathlib.Algebra.Ring.Int.Defs
import Mathlib.Algebra.Ring.Nat

/-! Time points and durations as signed 64-bit counts of nanosecond ticks. Every operation
wraps the way two's-complement hardware does; the exactness lemmas say when the wrap is
the identity. -/
namespace Chrono

def Fits (x : Int) : Prop := -(2^63) ≤ x ∧ x < 2^63

instance (x : Int) : Decidable (Fits x) := inferInstanceAs (Decidable (_ ∧ _))

def wrap (x : Int) : Int := x.bmod (2^64)

theorem wrap_exact (fits : Fits x) : wrap x = x := by
  obtain ⟨lower,upper⟩ := fits
  unfold wrap
  rw [Int.bmod_eq_of_le] <;> omega

theorem wrap_fits (x : Int) : Fits (wrap x) := by
  have lower := Int.le_bmod (x := x) (m := 2^64) (by decide)
  have upper := Int.bmod_lt (x := x) (m := 2^64) (by decide)
  unfold wrap
  exact ⟨by omega,by omega⟩

theorem wrap_le (nonnegative : 0 ≤ x) : wrap x ≤ x := by
  unfold wrap
  rw [Int.bmod_eq_emod]
  split <;> omega

/-- The conversion the compiler inserts when a millisecond count meets a nanosecond one. -/
def milliseconds (count : Int) : Int := wrap (count * 1000000)

def after (point : Int) (duration : Int) : Int := wrap (point + duration)

def elapsed (later earlier : Int) : Int := wrap (later - earlier)

theorem after_exact (fits : Fits (point + duration)) : after point duration = point + duration :=
  wrap_exact fits

theorem milliseconds_exact (fits : Fits (count * 1000000)) :
    milliseconds count = count * 1000000 :=
  wrap_exact fits

end Chrono
