import Mathlib.Algebra.Order.Group.Multiset
import Mathlib.Tactic.Abel
import AutoRuntime.Pool

/-! Things in custody. Whatever enters is held by somebody until it is disposed of, and passes
from hand to hand in between; the ledger balances what entered against what is held and what
is gone. -/
namespace Custody

open List

structure Ledger (entered held gone : List β) : Prop where
  distinct : entered.Nodup
  balanced : entered.Perm (held ++ gone)

theorem Ledger.empty : Ledger ([] : List β) [] [] := ⟨nodup_nil,.nil⟩

section

variable {entered held gone : List β} (ledger : Ledger entered held gone)

include ledger

/-- New things come in, held ones change hands, and some are disposed of. -/
theorem Ledger.exchange {new later spent : List β} (distinct : new.Nodup) (fresh : ∀ thing ∈ new, thing ∉ entered)
    (balanced : (held ++ new).Perm (later ++ spent)) : Ledger (entered ++ new) later (gone ++ spent) where
  distinct := by
    apply List.Nodup.append ledger.distinct distinct
    intro thing old recent
    exact fresh thing recent old
  balanced := by
    calc entered ++ new
      _ |>.Perm ((held ++ gone) ++ new) := ledger.balanced.append_right new
      _ |>.Perm ((held ++ new) ++ gone) := by
        rw [append_assoc,append_assoc]
        exact perm_append_comm.append_left held
      _ |>.Perm ((later ++ spent) ++ gone) := balanced.append_right gone
      _ |>.Perm (later ++ (gone ++ spent)) := by
        rw [append_assoc]
        exact perm_append_comm.append_left later

theorem Ledger.receive (new : Option β) (fresh : ∀ thing ∈ new, thing ∉ entered) :
    Ledger (entered ++ new.toList) (held ++ new.toList) gone := by
  have distinct : new.toList.Nodup := by cases new <;> simp
  have received := ledger.exchange distinct (fun thing member => fresh thing (by simpa using member))
    (by rw [append_nil] : (held ++ new.toList).Perm (held ++ new.toList ++ []))
  rwa [append_nil] at received

theorem Ledger.dispose {later spent : List β} (balanced : held.Perm (later ++ spent)) :
    Ledger entered later (gone ++ spent) := by
  have exchanged := ledger.exchange nodup_nil (fun _ nothing => absurd nothing not_mem_nil)
    (by rwa [append_nil] : (held ++ []).Perm (later ++ spent))
  rwa [append_nil] at exchanged

theorem Ledger.all_distinct : (held ++ gone).Nodup := ledger.balanced.nodup_iff.mp ledger.distinct

theorem Ledger.not_held (member : thing ∈ gone) :
    thing ∉ held := fun holding => disjoint_of_nodup_append ledger.all_distinct holding member

theorem Ledger.held_distinct : held.Nodup := ledger.all_distinct.of_append_left

/-- Each thing that entered is in one hand or was disposed of once. -/
theorem Ledger.count_once [DecidableEq β] (member : thing ∈ entered) : held.count thing + gone.count thing = 1 := by
  rw [← count_append,← ledger.balanced.count_eq]
  exact count_eq_one_of_mem ledger.distinct member

theorem Ledger.gone_entered (member : thing ∈ gone) : thing ∈ entered :=
  ledger.balanced.mem_iff.mpr (mem_append_right held member)

end

theorem holder_unique {holds : α → Option β} {pool : List α} (distinct : (pool.filterMap holds).Nodup)
    {first second : Nat} (one : pool[first]? = some holder) (other : pool[second]? = some another)
    (held : holds holder = some thing) (again : holds another = some thing) : first = second := by
  have apart : pool.Pairwise fun a b => ∀ x ∈ holds a, ∀ y ∈ holds b, x ≠ y :=
    pairwise_filterMap.mp distinct
  obtain ⟨inside,rfl⟩ := List.getElem?_eq_some_iff.mp one
  obtain ⟨within,rfl⟩ := List.getElem?_eq_some_iff.mp other
  have ordered := pairwise_iff_getElem.mp apart
  rcases Nat.lt_trichotomy first second with before | same | behind
  · exact absurd rfl (ordered first second inside within before thing held thing again)
  · exact same
  · exact absurd rfl (ordered second first within inside behind thing again thing held)

/-- One place changes what it has, and the rest of the stock changes with it. -/
theorem exchange_places {old new places later first second third : List β} (place : (old ++ later).Perm (new ++ places))
    (moved : (first ++ old).Perm (second ++ new ++ third)) : (first ++ places).Perm (second ++ later ++ third) := by
  rw [← Multiset.coe_eq_coe] at *
  simp only [← Multiset.coe_add] at *
  have total : (old : Multiset β) + (first + places) = old + (second + later + third) := by
    calc (old : Multiset β) + (first + places)
      _ = (first + old) + places := by abel
      _ = second + third + (new + places) := by rw [moved]; abel
      _ = old + (second + later + third) := by rw [← place]; abel
  exact add_left_cancel total

end Custody
