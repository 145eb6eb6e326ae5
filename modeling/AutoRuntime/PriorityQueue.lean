import Mathlib.Data.List.Sort

/-! Priority queues. Whoever is popped is a greatest element, so where no two elements are level the
whole sequence of pops is a function of the elements, whatever way they came in. -/
namespace PriorityQueue

/-- The strict part of a linear preorder, as a test. -/
structure Ranks (below : α → α → Bool) : Prop where
  asymmetric : ∀ one two, below one two = true → below two one = false
  transitive : ∀ one two three, below one two = false → below two three = false → below one three = false

def Greatest (below : α → α → Bool) (pool : List α) (chosen : α) : Prop :=
  chosen ∈ pool ∧ ∀ other ∈ pool, below chosen other = false

/-- No two elements are level. -/
def Apart (below : α → α → Bool) (pool : List α) : Prop :=
  ∀ one ∈ pool, ∀ two ∈ pool, below one two = false → below two one = false → one = two

/-- The elements with the greatest first. -/
def ranking (below : α → α → Bool) (pool : List α) : List α := pool.mergeSort fun one two => !below one two

variable {below other : α → α → Bool} {pool second order : List α}

theorem Greatest.unique (apart : Apart below pool) (first : Greatest below pool one)
    (last : Greatest below pool two) : one = two :=
  apart one first.1 two last.1 (first.2 two last.1) (last.2 one first.1)

theorem ranking_perm (below : α → α → Bool) (pool : List α) : (ranking below pool).Perm pool :=
  List.mergeSort_perm _ _

theorem ranking_pairwise (ranks : Ranks below) (pool : List α) :
    (ranking below pool).Pairwise fun one two => below one two = false := by
  have sorted : (ranking below pool).Pairwise fun one two => (!below one two) = true := by
    refine List.pairwise_mergeSort (fun one two three first last => ?_) (fun one two => ?_) pool
    · simp only [Bool.not_eq_true'] at first last ⊢
      exact ranks.transitive one two three first last
    · cases under : below one two with
      | false => rfl
      | true => simp [ranks.asymmetric one two under]
  exact sorted.imp fun level => by simpa using level

/-- There is one way to put the elements in order. -/
theorem ranking_unique (ranks : Ranks below) (apart : Apart below pool) (perm : order.Perm pool)
    (sorted : order.Pairwise fun one two => below one two = false) : order = ranking below pool := by
  refine (perm.trans (ranking_perm below pool).symm).eq_of_pairwise ?_ sorted (ranking_pairwise ranks pool)
  intro one two first last level same
  exact apart one (perm.subset first) two ((ranking_perm below pool).subset last) level same

theorem ranking_of_perm (ranks : Ranks below) (apart : Apart below pool) (perm : second.Perm pool) :
    ranking below second = ranking below pool :=
  ranking_unique ranks apart ((ranking_perm below second).trans perm) (ranking_pairwise ranks second)

/-- Tests that agree on the elements put them in the same order. -/
theorem ranking_congr (ranks : Ranks below) (ranked : Ranks other) (apart : Apart below pool)
    (agree : ∀ one ∈ pool, ∀ two ∈ pool, other one two = below one two) :
    ranking other pool = ranking below pool := by
  have inside := (ranking_perm other pool).subset
  refine ranking_unique ranks apart (ranking_perm other pool) ?_
  refine (ranking_pairwise ranked pool).imp_of_mem fun first last level => ?_
  rw [← agree _ (inside first) _ (inside last)]
  exact level

/-- A pop takes the first element of the order and leaves the rest of it. -/
theorem ranking_pop [DecidableEq α] (ranks : Ranks below) (apart : Apart below pool)
    (greatest : Greatest below pool chosen) :
    ranking below pool = chosen :: ranking below (pool.erase chosen) := by
  have rest := ranking_perm below (pool.erase chosen)
  refine (ranking_unique ranks apart ?_ ?_).symm
  · exact (rest.cons chosen).trans (List.perm_cons_erase greatest.1).symm
  · refine List.pairwise_cons.mpr ⟨fun later member => ?_,ranking_pairwise ranks _⟩
    exact greatest.2 later (List.mem_of_mem_erase (rest.subset member))

end PriorityQueue
