import Mathlib.Data.BitVec
import Mathlib.Data.List.GetD
import Mathlib.Logic.Function.Iterate

/-! Cyclic redundancy checks over a reflected register of any width. The register is a linear
function of what went in, and a shift can be undone when the polynomial has its top bit, so two
messages that differ inside one window of the register's width leave different registers. -/
namespace Crc

open List

/-- One shift of the register: the bit that falls out decides whether the polynomial comes in. -/
def shift (poly register : BitVec w) : BitVec w :=
  if register.getLsbD 0 then (register >>> 1) ^^^ poly else register >>> 1

/-- A bit as the lowest one of a register. -/
def low (w : Nat) (bit : Bool) : BitVec w := (BitVec.ofBool bit).setWidth w

def feed (poly register : BitVec w) (bit : Bool) : BitVec w := shift poly (register ^^^ low w bit)

def absorb (poly register : BitVec w) (bits : List Bool) : BitVec w := bits.foldl (feed poly) register

/-- The bits as a number, the first one lowest. -/
def value (w : Nat) : List Bool → BitVec w
  | [] => 0
  | bit :: rest => (value w rest <<< 1) ^^^ low w bit

theorem absorb_cons (poly register : BitVec w) (bit : Bool) (rest : List Bool) :
    absorb poly register (bit :: rest) = absorb poly (feed poly register bit) rest := rfl

theorem absorb_append (poly register : BitVec w) (first second : List Bool) :
    absorb poly register (first ++ second) = absorb poly (absorb poly register first) second :=
  foldl_append

theorem shift_getLsbD (poly register : BitVec w) (i : Nat) : (shift poly register).getLsbD i =
    (register.getLsbD (1 + i) ^^ (register.getLsbD 0 && poly.getLsbD i)) := by
  simp only [shift]
  split <;> simp [*]

theorem shift_xor (poly left right : BitVec w) :
    shift poly (left ^^^ right) = shift poly left ^^^ shift poly right := by
  apply BitVec.eq_of_getLsbD_eq
  intro i inside
  simp only [shift_getLsbD,BitVec.getLsbD_xor]
  cases left.getLsbD 0 <;> cases right.getLsbD 0 <;> cases poly.getLsbD i <;> simp

theorem shift_eq_zero {poly register : BitVec w} (top : poly.msb = true) (gone : shift poly register = 0) :
    register = 0 := by
  simp only [shift] at gone
  split at gone
  · have same : register >>> 1 = poly := BitVec.xor_eq_zero_iff.mp gone
    have clear : (register >>> 1).msb = false := by
      rw [BitVec.msb_eq_getLsbD_last,BitVec.getLsbD_ushiftRight]
      exact BitVec.getLsbD_of_ge _ _ (by omega)
    rw [same,top] at clear
    contradiction
  next even =>
    apply BitVec.eq_of_getLsbD_eq
    intro i inside
    cases i with
    | zero => simpa using even
    | succ i =>
      have bit := congrArg (fun register => BitVec.getLsbD register i) gone
      simpa [Nat.add_comm] using bit

theorem shift_injective {poly : BitVec w} (top : poly.msb = true) : Function.Injective (shift poly) := by
  intro left right same
  have gone : shift poly (left ^^^ right) = 0 := by
    rw [shift_xor,same]
    exact BitVec.xor_self
  exact BitVec.xor_eq_zero_iff.mp (shift_eq_zero top gone)

theorem absorb_injective {poly : BitVec w} (top : poly.msb = true) (bits : List Bool) :
    Function.Injective (fun register => absorb poly register bits) := by
  induction bits with
  | nil => exact fun _ _ same => same
  | cons bit rest ih =>
    intro left right same
    exact (BitVec.xor_left_inj _).mp (shift_injective top (ih same))

theorem value_getLsbD (inside : i < w) (bits : List Bool) : (value w bits).getLsbD i = bits.getD i false := by
  induction bits generalizing i with
  | nil => simp [value]
  | cons bit rest ih =>
    rw [value,BitVec.getLsbD_xor,BitVec.getLsbD_shiftLeft]
    cases i with
    | zero => simp [low,inside]
    | succ => simp [low,inside,ih (Nat.lt_of_succ_lt inside)]

theorem value_injective {first second : List Bool} (short : first.length ≤ w)
    (lengths : first.length = second.length) (same : value w first = value w second) : first = second := by
  apply ext_getElem lengths
  intro i one two
  have bit := congrArg (fun number => BitVec.getLsbD number i) same
  simp only [value_getLsbD (one.trans_le short)] at bit
  rw [getD_eq_getElem _ _ one,getD_eq_getElem _ _ two] at bit
  exact bit

theorem shift_double (poly : BitVec w) {number : BitVec w} (free : number.msb = false) :
    shift poly (number <<< 1) = number := by
  have even : (number <<< 1).getLsbD 0 = false := by simp
  rw [shift,if_neg (by simp)]
  apply BitVec.eq_of_getLsbD_eq
  intro i inside
  rw [BitVec.getLsbD_ushiftRight,BitVec.getLsbD_shiftLeft]
  rcases Nat.lt_or_ge (1 + i) w with below | above
  · simp [below]
  · have last : i = w - 1 := by omega
    rw [last,← BitVec.msb_eq_getLsbD_last,free]
    simp [show ¬1 + (w - 1) < w by omega]

theorem absorb_eq (poly register : BitVec w) {bits : List Bool} (short : bits.length ≤ w) :
    absorb poly register bits = (shift poly)^[bits.length] (register ^^^ value w bits) := by
  induction bits generalizing register with
  | nil => simp [absorb,value]
  | cons bit rest ih =>
    have room : rest.length < w := short
    have free : (value w rest).msb = false := by
      rw [BitVec.msb_eq_getLsbD_last,value_getLsbD (by omega)]
      exact getD_eq_default _ _ (by omega)
    have step : feed poly register bit ^^^ value w rest =
        shift poly (register ^^^ value w (bit :: rest)) := by
      calc feed poly register bit ^^^ value w rest
          = shift poly (register ^^^ low w bit) ^^^ shift poly (value w rest <<< 1) := by
            rw [shift_double poly free,feed]
        _ = shift poly (register ^^^ value w (bit :: rest)) := by
            rw [← shift_xor,value]
            ac_rfl
    rw [absorb_cons,ih _ room.le,step,length_cons,Function.iterate_succ_apply]

/-- The complement of the register, absorbed, leaves a register that depends on nothing else. -/
theorem absorb_complement (poly register : BitVec w) {bits : List Bool} (short : bits.length ≤ w)
    (check : value w bits = ~~~register) :
    absorb poly register bits = (shift poly)^[bits.length] (BitVec.allOnes w) := by
  have opposite : register ^^^ ~~~register = BitVec.allOnes w := by
    ext i inside
    simp
  rw [absorb_eq poly register short,check,opposite]

/-- Messages that differ inside a window of the register's width leave different registers. -/
theorem burst {poly : BitVec w} (top : poly.msb = true) (register : BitVec w) {first second : List Bool}
    (lengths : first.length = second.length)
    (window : ∀ i, first[i]? ≠ second[i]? → start ≤ i ∧ i < start + w)
    (same : absorb poly register first = absorb poly register second) : first = second := by
  have before : first.take start = second.take start := by
    apply ext_getElem?
    intro i
    by_contra differs
    rw [getElem?_take,getElem?_take] at differs
    split at differs
    next early => exact absurd (window i differs).1 (by omega)
    · exact differs rfl
  have after : first.drop (start + w) = second.drop (start + w) := by
    apply ext_getElem?
    intro i
    by_contra differs
    rw [getElem?_drop,getElem?_drop] at differs
    exact absurd (window _ differs).2 (by omega)
  have parts (bits : List Bool) : bits = bits.take start ++ ((bits.drop start).take w ++ bits.drop (start + w)) := by
    rw [← drop_drop,take_append_drop,take_append_drop]
  have middle : (first.drop start).take w = (second.drop start).take w := by
    rw [parts first,parts second,absorb_append,absorb_append,absorb_append,absorb_append,before,after] at same
    have inner := absorb_injective top _ same
    have short (bits : List Bool) : ((bits.drop start).take w).length ≤ w := by simp
    rw [absorb_eq _ _ (short first),absorb_eq _ _ (short second)] at inner
    have equal : ((first.drop start).take w).length = ((second.drop start).take w).length := by simp [lengths]
    rw [equal] at inner
    have values := (shift_injective top).iterate _ inner
    exact value_injective (short first) equal ((BitVec.xor_right_inj _).mp values)
  rw [parts first,parts second,before,middle,after]

end Crc
