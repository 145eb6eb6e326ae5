import AutoRuntime.Executor

/-! The release times of one periodic task. The catch-up loop walks the grid point by point, and
the jump behind it lands on the first point after now. -/
namespace AutoRuntime.Executor

open Chrono

/-- The points at which a task with this start and period is released, from the first one on. -/
def gridPoint (start period : Int) (index : Nat) : Int := start + index * period

theorem gridPoint_succ (start period : Int) (index : Nat) :
    gridPoint start period (index + 1) = gridPoint start period index + period := by
  simp only [gridPoint]
  grind

theorem gridPoint_add (start period : Int) (index count : Nat) :
    gridPoint start period (index + count) = gridPoint start period index + count * period := by
  simp only [gridPoint]
  grind

theorem gridPoint_lt (positive : 0 < period) (less : i < j) :
    gridPoint start period i < gridPoint start period j := by
  have ordered : (i : Int) * period < j * period := Int.mul_lt_mul_of_pos_right (by omega) positive
  simp only [gridPoint]
  omega

theorem gridPoint_le (positive : 0 < period) (less : i ≤ j) :
    gridPoint start period i ≤ gridPoint start period j := by
  rcases Nat.lt_or_eq_of_le less with strict | rfl
  · exact Int.le_of_lt (gridPoint_lt positive strict)
  · exact Int.le_refl _

theorem first_le_gridPoint (start : Int) (positive : 0 < period) (index : Nat) :
    start + period ≤ gridPoint start period (index + 1) := by
  have least : gridPoint start period (0 + 1) ≤ gridPoint start period (index + 1) :=
    gridPoint_le positive (by omega)
  simpa [gridPoint] using least

/-- No time point or duration of a pass at this time leaves the 64-bit range. -/
structure Representable (start period now : Int) : Prop where
  first : Fits (start + period)
  next : Fits (now + period)
  span : Fits (now - start)

section

variable {start period now : Int} (positive : 0 < period) (exact_ : Representable start period now)

include positive exact_

theorem after_gridPoint (due : gridPoint start period (index + 1) ≤ now) :
    after (gridPoint start period (index + 1)) period = gridPoint start period (index + 1 + 1) := by
  have first := first_le_gridPoint start positive index
  obtain ⟨lower,-⟩ := exact_.first
  obtain ⟨-,upper⟩ := exact_.next
  rw [after_exact ⟨by omega,by omega⟩,← gridPoint_succ]

theorem catchUp_grid (budget index : Nat) :
    ∃ count, count ≤ budget ∧
      catchUp now period budget (gridPoint start period (index + 1)) =
        ((List.range' (index + 1) count).map (gridPoint start period),
          gridPoint start period (index + count + 1)) ∧
      (gridPoint start period index ≤ now → gridPoint start period (index + count) ≤ now) ∧
      (count = budget ∨ now < gridPoint start period (index + count + 1)) := by
  induction budget generalizing index with
  | zero => exact ⟨0,Nat.le_refl 0,rfl,id,.inl rfl⟩
  | succ budget ih =>
    by_cases due : gridPoint start period (index + 1) ≤ now
    · obtain ⟨count,small,walked,reached,ended⟩ := ih (index + 1)
      have place : index + 1 + count = index + (count + 1) := by omega
      rw [place] at walked reached ended
      refine ⟨count + 1,by omega,?_,fun _ => reached due,ended.imp (congrArg (· + 1)) id⟩
      rw [catchUp,if_pos due,after_gridPoint positive exact_ due,walked,List.range'_succ,List.map_cons]
    · refine ⟨0,Nat.zero_le _,?_,id,.inr (Int.lt_of_not_ge due)⟩
      rw [catchUp,if_neg due]
      rfl

theorem skip_grid (behind : gridPoint start period (index + 1) ≤ now) :
    ∃ skipped : Nat,
      (UInt64.ofInt ((elapsed now (gridPoint start period (index + 1))).tdiv period) + 1).toNat = skipped ∧
      after (gridPoint start period (index + 1)) (wrap (period * wrap skipped)) =
        gridPoint start period (index + skipped + 1) ∧
      gridPoint start period (index + skipped) ≤ now ∧ now < gridPoint start period (index + skipped + 1) := by
  obtain ⟨lower,-⟩ := exact_.first
  obtain ⟨-,upper⟩ := exact_.next
  obtain ⟨-,span⟩ := exact_.span
  have first := first_le_gridPoint start positive index
  have place (count : Nat) : gridPoint start period (index + count + 1) =
      gridPoint start period (index + 1) + count * period := by
    rw [Nat.add_right_comm]
    exact gridPoint_add start period (index + 1) count
  generalize gridPoint start period (index + 1) = next at behind first place
  have late : elapsed now next = now - next := wrap_exact ⟨by omega,by omega⟩
  have quotient : (now - next).tdiv period = (now - next) / period := Int.tdiv_eq_ediv_of_nonneg (by omega)
  have nonnegative : 0 ≤ (now - next) / period := Int.ediv_nonneg (by omega) (Int.le_of_lt positive)
  have below : (now - next) / period * period ≤ now - next := Int.ediv_mul_le _ (by omega)
  have above : now - next < ((now - next) / period + 1) * period := Int.lt_ediv_add_one_mul_self _ positive
  have small : (now - next) / period ≤ now - next := Int.ediv_le_self _ (by omega)
  rw [late,quotient]
  generalize (now - next) / period = whole at nonnegative below above small
  have product : period * (whole + 1) = whole * period + period := by grind
  rw [Int.mul_comm] at above
  have count : ((whole.toNat + 1 : Nat) : Int) = whole + 1 := by omega
  have jump : gridPoint start period (index + (whole.toNat + 1) + 1) = next + (whole * period + period) := by
    rw [place,count,Int.mul_comm,product]
  refine ⟨whole.toNat + 1,?_,?_,?_,?_⟩
  · rw [UInt64.ofInt]
    simp
    omega
  · have inner : wrap (whole + 1) = whole + 1 := wrap_exact ⟨by omega,by omega⟩
    have outer : wrap (whole * period + period) = whole * period + period := wrap_exact ⟨by omega,by omega⟩
    rw [count,inner,product,outer,after_exact ⟨by omega,by omega⟩,jump]
  · have reached := place whole.toNat
    rw [Int.toNat_of_nonneg nonnegative] at reached
    change gridPoint start period (index + whole.toNat + 1) ≤ now
    omega
  · rw [jump]
    omega

/-- The release step of one pass: at most 1024 points are released, the rest up to now is skipped,
and the next release is the first point after now. -/
theorem release_grid {task : TaskState} (alive : task.cancelled = false) (periodic : task.config.kind = .periodic)
    (own : task.config.period = period) (next : task.nextRelease = gridPoint start period (index + 1))
    (past : gridPoint start period index ≤ now) :
    ∃ count skipped : Nat, count ≤ 1024 ∧
      (task.release now).2 = (List.range' (index + 1) count).map (gridPoint start period) ∧
      (task.release now).1 = { task with
        nextRelease := gridPoint start period (index + count + skipped + 1)
        stats := { task.stats with
          periodicReleasesSkipped := task.stats.periodicReleasesSkipped + skipped } } ∧
      gridPoint start period (index + count + skipped) ≤ now ∧
      now < gridPoint start period (index + count + skipped + 1) := by
  obtain ⟨count,small,walked,reached,ended⟩ := catchUp_grid positive exact_ 1024 index
  have active : ¬(task.cancelled || task.config.kind != .periodic) = true := by simp [alive,periodic]
  rw [TaskState.release,if_neg active]
  simp only [own,next,walked,List.length_map,List.length_range']
  by_cases behind : count = 1024 ∧ gridPoint start period (index + count + 1) ≤ now
  · obtain ⟨skipped,number,landed,last,first⟩ := skip_grid positive exact_ behind.2
    rw [if_pos behind,number,landed]
    exact ⟨count,skipped,small,rfl,rfl,last,first⟩
  · rw [if_neg behind]
    refine ⟨count,0,small,rfl,rfl,reached past,?_⟩
    exact ended.elim (fun full => Int.lt_of_not_ge fun due => behind ⟨full,due⟩) id

end

end AutoRuntime.Executor
