import AutoRuntime.Pool
import Mathlib.Data.List.AList

/-! Finite tables over Mathlib's association lists. The order of the entries is the order
in which an iteration visits them, so a hash table is any permutation of its entries. -/
abbrev Table (κ ν : Type) := AList fun _ : κ => ν

namespace Table

open List Option AList

/-- One iteration order of a hash table: some permutation of whatever entries it holds. -/
structure Order (κ ν : Type) where
  arrange : List (Σ _ : κ, ν) → List (Σ _ : κ, ν)
  perm : ∀ entries, (arrange entries).Perm entries

def Order.stored : Order κ ν := ⟨id,fun entries => List.Perm.refl entries⟩

def size (table : Table κ ν) : Nat := table.entries.length

/-- The entries that pass the test, in their old order. -/
def filter (test : κ → ν → Bool) (table : Table κ ν) : Table κ ν :=
  ⟨table.entries.filter (fun entry => test entry.1 entry.2),
    (List.filter_sublist.map _).nodup table.nodupKeys⟩

/-- Change every value in place; no key moves. -/
def mapValues (change : κ → ν → ν) (table : Table κ ν) : Table κ ν :=
  ⟨table.entries.map (fun entry => ⟨entry.1,change entry.1 entry.2⟩),by
    simpa [List.NodupKeys,List.keys,Function.comp_def] using table.nodupKeys⟩

variable [DecidableEq κ]

/-- Change the value of one key in place; an absent key stays absent. -/
def modify (key : κ) (change : ν → ν) (table : Table κ ν) : Table κ ν :=
  table.mapValues fun other value => if other = key then change value else value

variable {table : Table κ ν}

theorem lookup_eq_some_iff : table.lookup key = some value ↔ (⟨key,value⟩ : Σ _ : κ, ν) ∈ table.entries :=
  mem_lookup_iff

theorem eq_empty_iff : table = ∅ ↔ ∀ key, table.lookup key = none := by
  constructor
  · rintro rfl key
    exact lookup_empty key
  · intro absent
    refine ext (eq_nil_iff_forall_not_mem.mpr fun entry member => ?_)
    have found := lookup_eq_some_iff.mpr member
    rw [absent] at found
    contradiction

@[simp] theorem lookup_filter (test : κ → ν → Bool) (table : Table κ ν) (key : κ) :
    (table.filter test).lookup key = (table.lookup key).filter (test key) := by
  apply Option.ext
  intro value
  rw [lookup_eq_some_iff,filter_eq_some_iff,lookup_eq_some_iff]
  exact mem_filter

@[simp] theorem lookup_mapValues (change : κ → ν → ν) (table : Table κ ν) (key : κ) :
    (table.mapValues change).lookup key = (table.lookup key).map (change key) :=
  dlookup_map₂ key

@[simp] theorem lookup_modify_same (key : κ) (change : ν → ν) (table : Table κ ν) :
    (table.modify key change).lookup key = (table.lookup key).map change := by
  simp [modify]

@[simp] theorem lookup_modify_other (change : ν → ν) (table : Table κ ν) (apart : other ≠ key) :
    (table.modify key change).lookup other = table.lookup other := by
  simp [modify,apart]

theorem lookup_modify_eq_none : (table.modify key change).lookup other = none ↔ table.lookup other = none := by
  by_cases same : other = key
  · rw [same,lookup_modify_same,map_eq_none_iff]
  · rw [lookup_modify_other change table same]

/-- One key changes, and every key has a value that is related to the one it had. -/
theorem modify_related {r : ν → ν → Prop} (found : table.lookup key = some value) (changes : r value changed)
    (refl : ∀ old, r old old) (present : table.lookup other = some old) :
    ∃ new, (table.modify key fun _ => changed).lookup other = some new ∧ r old new := by
  by_cases same : other = key
  · subst other
    cases found.symm.trans present
    exact ⟨changed,by simp [found],changes⟩
  · exact ⟨old,by simpa [same] using present,refl old⟩

theorem lookup_insert_old (absent : table.lookup key = none) (present : table.lookup other = some old) :
    (table.insert key value).lookup other = some old := by
  have apart : other ≠ key := by
    rintro rfl
    simp [absent] at present
  rw [lookup_insert_ne apart,present]

/-- What is found after an insertion is new or was there before. -/
theorem insert_cases (found : (table.insert key value).lookup other = some present) :
    other = key ∧ present = value ∨ other ≠ key ∧ table.lookup other = some present := by
  by_cases same : other = key
  · rw [same,lookup_insert] at found
    exact .inl ⟨same,(some.inj found).symm⟩
  · rw [lookup_insert_ne same] at found
    exact .inr ⟨same,found⟩

theorem modify_self (found : table.lookup key = some value) : table.modify key (fun _ => value) = table := by
  apply AList.ext
  refine (map_congr_left fun entry member => ?_).trans (map_id table.entries)
  by_cases same : entry.1 = key
  · subst same
    cases found.symm.trans (lookup_eq_some_iff.mpr member)
    simp
  · simp [same]

omit [DecidableEq κ] in
theorem Order.nodupKeys (order : Order κ ν) (table : Table κ ν) :
    (order.arrange table.entries).NodupKeys :=
  (perm_nodupKeys (order.perm table.entries)).mpr table.nodupKeys

theorem Order.dlookup (order : Order κ ν) (table : Table κ ν) (key : κ) :
    (order.arrange table.entries).dlookup key = table.lookup key :=
  perm_dlookup key (order.nodupKeys table) (order.perm table.entries)

/-- Each key gets what its own value contributes, whatever the order of the iteration. -/
theorem share_arranged (order : Order κ ν) (table : Table κ ν) (contribution : ν → List β) (key : κ) :
    Pool.share key ((order.arrange table.entries).flatMap fun entry =>
      (contribution entry.2).map fun value => (entry.1,value)) =
        ((table.lookup key).map contribution).getD [] := by
  have distinct := order.nodupKeys table
  rw [← order.dlookup table key]
  generalize order.arrange table.entries = entries at distinct
  induction entries with
  | nil => rfl
  | cons entry entries ih =>
    obtain ⟨fresh,distinct⟩ := nodupKeys_cons.mp distinct
    rw [flatMap_cons,Pool.share_append,ih distinct]
    obtain ⟨other,value⟩ := entry
    by_cases equal : other = key
    · subst equal
      have absent : entries.dlookup other = none := dlookup_eq_none.mpr fresh
      simp [Pool.share_own,absent]
    · rw [Pool.share_other equal,dlookup_cons_ne _ _ (Ne.symm equal)]
      rfl

theorem filter_owned {entries : List (Σ _ : κ, ν)} {contribution : κ → ν → Option β} {owner : β → κ}
    (distinct : entries.NodupKeys)
    (owned : ∀ entry ∈ entries, ∀ output, contribution entry.1 entry.2 = some output →
      owner output = entry.1) (key : κ) :
    (entries.filterMap fun entry => contribution entry.1 entry.2).filter
        (fun output => owner output = key) =
      ((entries.dlookup key).bind (contribution key)).toList := by
  induction entries with
  | nil => rfl
  | cons entry entries ih =>
    obtain ⟨fresh,distinct⟩ := nodupKeys_cons.mp distinct
    have rest := ih distinct fun other member => owned other (mem_cons_of_mem entry member)
    have own := owned entry mem_cons_self
    obtain ⟨other,value⟩ := entry
    by_cases equal : other = key
    · subst equal
      have absent : entries.dlookup other = none := dlookup_eq_none.mpr fresh
      rw [absent] at rest
      cases given : contribution other value with
      | none => simpa [given] using rest
      | some output => simpa [given,own output given] using rest
    · rw [dlookup_cons_ne _ _ (Ne.symm equal),← rest]
      cases given : contribution other value with
      | none => simp [given]
      | some output => simp [given,own output given,equal]

/-- Of what an iteration collects, each key owns what its own value contributes. -/
theorem filter_arranged (order : Order κ ν) (table : Table κ ν) (contribution : κ → ν → Option β)
    {owner : β → κ} (owned : ∀ key value output, table.lookup key = some value →
      contribution key value = some output → owner output = key) (key : κ) :
    ((order.arrange table.entries).filterMap fun entry => contribution entry.1 entry.2).filter
        (fun output => owner output = key) =
      ((table.lookup key).bind (contribution key)).toList := by
  rw [← order.dlookup table key]
  refine filter_owned (order.nodupKeys table) (fun entry member output given => ?_) key
  have stored := lookup_eq_some_iff.mpr ((order.perm table.entries).mem_iff.mp member)
  exact owned entry.1 entry.2 output stored given

end Table
