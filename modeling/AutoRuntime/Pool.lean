import Mathlib.Data.List.Perm.Subperm

/-! Pools of concurrent calls. A call keeps its index for life and moves from phase to phase
by an update in place, so whatever the phases contribute is exchanged one for one. -/
namespace Pool

open List Option Nat

/-- Whoever is in a pool after one comes in was there before or is the one. -/
theorem concat_cases {pool : List α} (found : (pool ++ [new])[index]? = some member) :
    pool[index]? = some member ∨ index = pool.length ∧ member = new := by
  rcases Nat.lt_trichotomy index pool.length with inside | rfl | outside
  · rw [getElem?_append_left inside] at found
    exact .inl found
  · rw [getElem?_concat_length] at found
    exact .inr ⟨rfl,(some.inj found).symm⟩
  · rw [getElem?_eq_none (by rw [length_append]; exact outside)] at found
    contradiction

theorem mem_concat {pool : List α} (found : member ∈ pool ++ [new]) : member ∈ pool ∨ member = new := by
  simpa using found

theorem inside {pool : List α} (active : pool[index]? = some member) : index < pool.length :=
  (List.getElem?_eq_some_iff.mp active).1

/-- Whoever is in a pool after one is replaced is the replacement or another one. -/
theorem set_cases {pool : List α} (found : (pool.set index new)[other]? = some member) :
    other = index ∧ member = new ∨ other ≠ index ∧ pool[other]? = some member := by
  by_cases same : other = index
  · subst same
    obtain ⟨inside,-⟩ := List.getElem?_eq_some_iff.mp found
    rw [getElem?_set_self (by simpa using inside)] at found
    exact .inl ⟨rfl,(some.inj found).symm⟩
  · rw [getElem?_set_ne (Ne.symm same)] at found
    exact .inr ⟨same,found⟩

theorem mem_set_of_ne {pool : List α} (active : pool[index]? = some old) (member : other ∈ pool)
    (apart : other ≠ old) : other ∈ pool.set index new := by
  obtain ⟨place,found⟩ := mem_iff_getElem?.mp member
  have elsewhere : index ≠ place := by
    rintro rfl
    exact apart (some.inj (found.symm.trans active))
  exact mem_of_getElem? ((getElem?_set_ne elsewhere).trans found)

/-- Nobody is above the one that comparing them one after the other leaves. -/
theorem foldl_best (below : α → α → Bool) (asymmetric : ∀ one two, below one two = true → below two one = false)
    (transitive : ∀ one two three, below one two = false → below two three = false → below one three = false)
    (pool : List α) (first : α) : ∀ other ∈ first :: pool,
      below (pool.foldl (fun best other => if below best other then other else best) first) other = false := by
  have irreflexive (one : α) : below one one = false := by
    cases self : below one one with
    | false => rfl
    | true => exact self.symm.trans (asymmetric one one self)
  induction pool generalizing first with
  | nil =>
    intro other member
    rw [mem_singleton.mp member]
    exact irreflexive first
  | cons next rest ih =>
    intro other member
    rw [foldl_cons]
    rcases mem_cons.mp member with rfl | later
    · refine transitive _ _ _ (ih _ _ mem_cons_self) ?_
      split
      next above => exact asymmetric _ _ above
      · exact irreflexive other
    · rcases mem_cons.mp later with rfl | there
      · refine transitive _ _ _ (ih _ _ mem_cons_self) ?_
        split
        · exact irreflexive other
        next level => exact Bool.eq_false_iff.mpr level
      · exact ih _ other (mem_cons_of_mem _ there)

/-- Nobody leaves, and whoever changes does so as the relation says. -/
def Grows (related : α → α → Prop) (pool later : List α) : Prop :=
  ∀ (index : Nat) member, pool[index]? = some member → ∃ next, later[index]? = some next ∧ related member next

theorem Grows.refl {related : α → α → Prop} (reflexive : ∀ member, related member member) (pool : List α) :
    Grows related pool pool :=
  fun _ member found => ⟨member,found,reflexive member⟩

theorem Grows.concat {related : α → α → Prop} (reflexive : ∀ member, related member member) (pool : List α) (new : α) :
    Grows related pool (pool ++ [new]) := fun index member found =>
  ⟨member,by rw [List.getElem?_append_left (List.getElem?_eq_some_iff.mp found).1,found],reflexive member⟩

theorem Grows.set {related : α → α → Prop} (reflexive : ∀ member, related member member) {pool : List α}
    (active : pool[index]? = some old) (changed : related old new) : Grows related pool (pool.set index new) := by
  intro other member found
  by_cases same : index = other
  · subst same
    cases active.symm.trans found
    exact ⟨new,List.getElem?_set_self (List.getElem?_eq_some_iff.mp found).1,changed⟩
  · exact ⟨member,(getElem?_set_ne same).trans found,reflexive member⟩

/-- The old contribution leaves and the new one comes in its place. -/
theorem filterMap_set_perm (contribution : α → Option β) (pool : List α)
    (active : pool[index]? = some old) (new : α) :
    ((contribution old).toList ++ (pool.set index new).filterMap contribution).Perm
      ((contribution new).toList ++ pool.filterMap contribution) := by
  induction pool generalizing index with
  | nil => simp at active
  | cons head tail ih =>
    cases index with
    | zero =>
      obtain rfl : head = old := by simpa using active
      cases first : contribution head <;> cases second : contribution new <;>
        simp [first,second,List.Perm.swap]
    | succ =>
      have rest := ih (by simpa using active)
      cases first : contribution head with
      | none => simpa [first] using rest
      | some value =>
        simp only [set_cons_succ,filterMap_cons,first]
        exact (perm_middle.trans (rest.cons value)).trans perm_middle.symm

/-- Phases that contribute the same leave the pool's contributions as they are. -/
theorem filterMap_set_same (contribution : α → Option β) (pool : List α)
    (active : pool[index]? = some old) (same : contribution new = contribution old) :
    (pool.set index new).filterMap contribution = pool.filterMap contribution := by
  induction pool generalizing index with
  | nil => simp
  | cons head tail ih =>
    cases index with
    | zero =>
      obtain rfl : head = old := by simpa using active
      simp [filterMap_cons,same]
    | succ => simp only [set_cons_succ,filterMap_cons,ih (by simpa using active)]

theorem filterMap_only (contribution : α → Option β) (pool : List α) (active : pool[index]? = some member)
    (only : ∀ (other : Nat) another, pool[other]? = some another → other ≠ index → contribution another = none) :
    pool.filterMap contribution = (contribution member).toList := by
  induction pool generalizing index with
  | nil => simp at active
  | cons head tail ih =>
    cases index with
    | zero =>
      obtain rfl : head = member := by simpa using active
      have rest : tail.filterMap contribution = [] := by
        refine filterMap_eq_nil_iff.mpr fun another listed => ?_
        obtain ⟨other,found⟩ := mem_iff_getElem?.mp listed
        exact only (other + 1) another (by simpa using found) (succ_ne_zero other)
      rw [filterMap_cons,rest]
      cases contribution head <;> rfl
    | succ index =>
      rw [filterMap_cons,only 0 head rfl (succ_ne_zero index).symm]
      exact ih (by simpa using active) fun other another found apart =>
        only (other + 1) another (by simpa using found) (by omega)

theorem map_set_same (view : α → β) (pool : List α) (active : pool[index]? = some old)
    (same : view new = view old) : (pool.set index new).map view = pool.map view := by
  rw [← filterMap_eq_map,filterMap_set_same (some ∘ view) pool active (congrArg some same)]

/-- A phase that contributes no more than the one before takes nothing new into the pool. -/
theorem filterMap_set_subperm (contribution : α → Option β) (pool : List α)
    (active : pool[index]? = some old)
    (less : contribution new = none ∨ contribution new = contribution old) :
    ((pool.set index new).filterMap contribution).Subperm (pool.filterMap contribution) := by
  rcases less with gone | same
  · have exchanged := filterMap_set_perm contribution pool active new
    rw [gone] at exchanged
    exact (sublist_append_right _ _).subperm.trans exchanged.subperm
  · rw [filterMap_set_same contribution pool active same]

theorem countP_concat (counted : α → Bool) (pool : List α) (new : α) :
    (pool ++ [new]).countP counted = pool.countP counted + (counted new).toNat := by
  rw [countP_append,countP_singleton]
  cases counted new <;> rfl

/-- A count changes by what the old phase and the new one contribute. -/
theorem countP_set (counted : α → Bool) (pool : List α) (active : pool[index]? = some old) (new : α) :
    (pool.set index new).countP counted + (counted old).toNat =
      pool.countP counted + (counted new).toNat := by
  induction pool generalizing index with
  | nil => simp at active
  | cons head tail ih =>
    cases index with
    | zero =>
      obtain rfl : head = old := by simpa using active
      cases first : counted head <;> cases second : counted new <;> simp [first,second]
    | succ =>
      have rest := ih (by simpa using active)
      cases first : counted head <;> simp [first] <;> omega

theorem countP_set_pos (counted : α → Bool) (pool : List α) (active : pool[index]? = some old)
    (holds : counted new = true) : 0 < (pool.set index new).countP counted := by
  obtain ⟨inside,-⟩ := List.getElem?_eq_some_iff.mp active
  exact countP_pos_iff.mpr ⟨new,mem_set inside new,holds⟩

theorem countP_erase [DecidableEq α] (counted : α → Bool) {pool : List α} (member : call ∈ pool) :
    (pool.erase call).countP counted + (counted call).toNat = pool.countP counted := by
  rw [(perm_cons_erase member).countP_eq counted,countP_cons]
  cases counted call <;> rfl

theorem countP_eraseP (test counted : α → Bool) (pool : List α) :
    (pool.eraseP test).countP counted + (pool.find? test).toList.countP counted = pool.countP counted := by
  induction pool with
  | nil => rfl
  | cons head tail ih =>
    cases first : test head with
    | true => simp [first,List.countP_cons]
    | false =>
      rw [List.eraseP_cons_of_neg (by simp [first]),List.find?_cons,first,List.countP_cons,List.countP_cons,← ih]
      simp only [Nat.add_right_comm]

theorem any_set (test : α → Bool) {pool : List α} (active : pool[index]? = some old) (new : α) (other : Nat) :
    (pool.set index new)[other]?.any test = if other = index then test new else pool[other]?.any test := by
  have bound := (List.getElem?_eq_some_iff.mp active).1
  by_cases same : other = index
  · simp [same,bound]
  · simp [same,Ne.symm same]

theorem any_concat (test : α → Bool) (pool : List α) (idle : test new = false) (other : Nat) :
    (pool ++ [new])[other]?.any test = pool[other]?.any test := by
  rcases Nat.lt_trichotomy other pool.length with inside | rfl | beyond
  · rw [getElem?_append_left inside]
  · simp [idle]
  · rw [getElem?_eq_none (by simp; omega),getElem?_eq_none (by omega)]

theorem any_modify (test : α → Bool) (pool : List α) {change : α → α}
    (same : ∀ member, test (change member) = test member) (index other : Nat) :
    (pool.modify index change)[other]?.any test = pool[other]?.any test := by
  rw [getElem?_modify]
  cases pool[other]? with
  | none => rfl
  | some => by_cases here : index = other <;> simp [here,same]

/-- Two ways of sorting the same calls into two heaps. -/
theorem countP_split {first second third fourth : α → Bool} (pool : List α)
    (split : ∀ call, (first call).toNat + (second call).toNat =
      (third call).toNat + (fourth call).toNat) :
    pool.countP first + pool.countP second = pool.countP third + pool.countP fourth := by
  induction pool with
  | nil => rfl
  | cons head tail =>
    have cons (counted : α → Bool) :
        (head :: tail).countP counted = tail.countP counted + (counted head).toNat := by
      cases this : counted head <;> simp [this]
    have here := split head
    simp only [cons]
    omega

section Share

variable [DecidableEq κ]

/-- What a list of labelled values holds under one label. -/
def share (key : κ) (pairs : List (κ × ν)) : List ν :=
  pairs.filterMap fun pair => if pair.1 = key then some pair.2 else none

theorem share_append (key : κ) (first second : List (κ × ν)) :
    share key (first ++ second) = share key first ++ share key second := filterMap_append

theorem share_own (key : κ) (values : List ν) : share key (values.map fun value => (key,value)) = values := by
  simp [share]

theorem share_other {key other : κ} (apart : other ≠ key) (values : List ν) :
    share key (values.map fun value => (other,value)) = [] := by
  simp [share,apart]

/-- What holds between the values under a label holds between any two of them in their places. -/
theorem share_pairwise {relation : ν → ν → Prop} {pairs : List (κ × ν)} {key : κ} {earlier later : Nat}
    (ordered : (share key pairs).Pairwise relation) (first : pairs[earlier]? = some (key,one))
    (second : pairs[later]? = some (key,two)) (less : earlier < later) : relation one two := by
  rw [share,pairwise_filterMap,pairwise_iff_getElem] at ordered
  obtain ⟨here,equal⟩ := List.getElem?_eq_some_iff.mp first
  obtain ⟨there,same⟩ := List.getElem?_eq_some_iff.mp second
  exact ordered earlier later here there less one (by rw [equal]; simp) two (by rw [same]; simp)

variable [DecidableEq ν]

theorem count_share (key : κ) (value : ν) (pairs : List (κ × ν)) :
    (share key pairs).count value = pairs.count (key,value) := by
  induction pairs with
  | nil => rfl
  | cons head tail ih =>
    unfold share at ih ⊢
    by_cases same : head.1 = key <;> simp [count_cons,Prod.ext_iff,same,ih]

theorem subperm_of_shares {left right : List (κ × ν)}
    (shares : ∀ key, (share key left).Subperm (share key right)) : left.Subperm right := by
  rw [subperm_ext_iff]
  intro pair _
  have counted := (shares pair.1).count_le pair.2
  rwa [count_share,count_share] at counted

end Share

end Pool
