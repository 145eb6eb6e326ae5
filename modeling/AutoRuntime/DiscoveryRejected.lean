import AutoRuntime.DiscoveryFence

/-! A rejected announcement leaves no trace but its count. It may clear overdue fences early,
but whatever runs next clears them first anyway, so two runs that differ in rejected
announcements agree on the records and on every fence that still stands. -/
namespace AutoRuntime.Discovery

open Chrono List

/-- The fences that stand at this time. -/
def State.unexpiredFences (s : State) (observedAt : Int) : Table NodeId GenerationFence :=
  s.generationFences.filter fun _ fence => observedAt < fence.expiresAt

/-- What a step shows: its events, which carry the outcome of an announcement, and the members
and the standing fences after it. -/
structure Shown where
  events : List Event
  members : Table NodeId MemberRecord
  unexpiredFences : Table NodeId GenerationFence

def shown (config : DiscoveryConfig) : State → List Op → List Shown
  | _, [] => []
  | s, op :: rest =>
    let (t,events) := perform config s op
    ⟨events,t.members,t.unexpiredFences op.observedAt⟩ :: shown config t rest

def Op.rejected (config : DiscoveryConfig) (s : State) : Op → Bool
  | .accept announcement observedAt => !(Discovery.accept config announcement observedAt s).2.accepted
  | .expireMembers .. => false

/-- Every step that is not kept is an announcement the full run rejects. -/
def Deletable (config : DiscoveryConfig) : State → List (Op × Bool) → Prop
  | _, [] => True
  | s, (op,kept) :: rest =>
    (kept = false → op.rejected config s = true) ∧ Deletable config (perform config s op).1 rest

/-- Equal up to the counters. -/
structure Same (s t : State) : Prop where
  members : s.members = t.members
  fences : s.generationFences = t.generationFences

/-- Equal up to the counters and the fences that are overdue. -/
structure Alike (now : Int) (s t : State) : Prop where
  members : s.members = t.members
  fences : s.unexpiredFences now = t.unexpiredFences now

theorem unexpiredFences_later (s : State) (ordered : now ≤ post) :
    (s.unexpiredFences now).filter (fun _ fence => post < fence.expiresAt) = s.unexpiredFences post := by
  apply AList.ext
  change ((s.generationFences.entries.filter _).filter _) = s.generationFences.entries.filter _
  rw [filter_filter]
  apply filter_congr
  intro entry _
  simp only [Bool.and_eq_left_iff_imp,decide_eq_true_eq]
  omega

theorem Alike.later (alike : Alike now s t) (ordered : now ≤ post) : Alike post s t := by
  refine ⟨alike.members,?_⟩
  rw [← unexpiredFences_later s ordered,← unexpiredFences_later t ordered,alike.fences]

theorem Same.alike (same : Same s t) : Alike now s t := by
  refine ⟨same.members,?_⟩
  rw [State.unexpiredFences,State.unexpiredFences,same.fences]

theorem Alike.purged (alike : Alike now s t) (ordered : now ≤ observedAt) :
    Same (expireGenerationFences observedAt s) (expireGenerationFences observedAt t) :=
  ⟨alike.members,(alike.later ordered).fences⟩

theorem enlist_same (config announcement observedAt) (same : Same s t) :
    Same (enlist config announcement observedAt s).1 (enlist config announcement observedAt t).1 ∧
      (enlist config announcement observedAt s).2 = (enlist config announcement observedAt t).2 := by
  obtain ⟨members,fences⟩ := same
  simp only [enlist,members,fences]
  split
  · split
    · exact ⟨⟨members,fences⟩,rfl⟩
    · split
      · exact ⟨⟨members,fences⟩,rfl⟩
      · exact ⟨⟨rfl,rfl⟩,rfl⟩
  · split
    · exact ⟨⟨members,fences⟩,rfl⟩
    · split
      · exact ⟨⟨members,fences⟩,rfl⟩
      · exact ⟨⟨rfl,rfl⟩,rfl⟩

theorem accept_alike (config announcement) (alike : Alike now s t) (ordered : now ≤ observedAt) :
    Alike observedAt (accept config announcement observedAt s).1 (accept config announcement observedAt t).1 ∧
      (accept config announcement observedAt s).2 = (accept config announcement observedAt t).2 := by
  simp only [accept]
  split
  · exact ⟨alike.later ordered,rfl⟩
  · have purged : Same
        (expireGenerationFences observedAt (s.tally fun stats => { stats with
          announcementsReceived := stats.announcementsReceived + 1 }))
        (expireGenerationFences observedAt (t.tally fun stats => { stats with
          announcementsReceived := stats.announcementsReceived + 1 })) :=
      Alike.purged ⟨alike.members,alike.fences⟩ ordered
    obtain ⟨same,outcome⟩ := enlist_same config announcement observedAt purged
    exact ⟨same.alike,outcome⟩

theorem evictOldestFence_same (config order observedAt) (same : Same s t) :
    Same (evictOldestFence config order observedAt s).1 (evictOldestFence config order observedAt t).1 ∧
      (evictOldestFence config order observedAt s).2 = (evictOldestFence config order observedAt t).2 := by
  obtain ⟨members,fences⟩ := same
  simp only [evictOldestFence,fences]
  split
  · split
    · exact ⟨⟨members,rfl⟩,rfl⟩
    · exact ⟨⟨members,fences⟩,rfl⟩
  · exact ⟨⟨members,fences⟩,rfl⟩

theorem rememberGenerationFence_same (config order member observedAt) (same : Same s t) :
    Same (rememberGenerationFence config order member observedAt s).1
        (rememberGenerationFence config order member observedAt t).1 ∧
      (rememberGenerationFence config order member observedAt s).2 =
        (rememberGenerationFence config order member observedAt t).2 := by
  obtain ⟨evicted,events⟩ := evictOldestFence_same config order observedAt same
  simp only [rememberGenerationFence,same.fences]
  split
  · exact ⟨⟨same.members,rfl⟩,rfl⟩
  · refine ⟨⟨evicted.members,?_⟩,events⟩
    simp only [State.tally_generationFences,evicted.fences]

theorem expireMember_same (config order observedAt entry) {left right : State × List Event}
    (same : Same left.1 right.1) (events : left.2 = right.2) :
    Same (expireMember config order observedAt left entry).1 (expireMember config order observedAt right entry).1 ∧
      (expireMember config order observedAt left entry).2 = (expireMember config order observedAt right entry).2 := by
  simp only [expireMember]
  split
  · obtain ⟨remembered,emitted⟩ := rememberGenerationFence_same config order entry.2 observedAt same
    refine ⟨⟨?_,remembered.fences⟩,?_⟩
    · simp only [State.tally_members,remembered.members]
    · simp only [events,emitted]
  · exact ⟨same,events⟩

theorem expireLoop_same (config order observedAt) (entries : List (Σ _ : NodeId, MemberRecord))
    {left right : State × List Event} (same : Same left.1 right.1) (events : left.2 = right.2) :
    Same (entries.foldl (expireMember config order observedAt) left).1
        (entries.foldl (expireMember config order observedAt) right).1 ∧
      (entries.foldl (expireMember config order observedAt) left).2 =
        (entries.foldl (expireMember config order observedAt) right).2 := by
  induction entries generalizing left right with
  | nil => exact ⟨same,events⟩
  | cons entry entries ih =>
    obtain ⟨turned,emitted⟩ := expireMember_same config order observedAt entry same events
    exact ih turned emitted

/-- A step taken in both runs shows the same in both, and leaves them alike. -/
theorem perform_alike (config : DiscoveryConfig) (op : Op) (alike : Alike now s t) (ordered : now ≤ op.observedAt) :
    Alike op.observedAt (perform config s op).1 (perform config t op).1 ∧
      (perform config s op).2 = (perform config t op).2 := by
  cases op with
  | accept announcement =>
    simp only [Op.observedAt] at ordered ⊢
    obtain ⟨after,outcome⟩ := accept_alike config announcement alike ordered
    exact ⟨after,by simp only [perform,outcome]⟩
  | expireMembers order visit observedAt =>
    simp only [Op.observedAt] at ordered ⊢
    have purged := alike.purged ordered
    simp only [perform,expireMembers,purged.members]
    obtain ⟨looped,events⟩ := expireLoop_same config order observedAt _
      (show Same (expireGenerationFences observedAt s,([] : List Event)).1
        (expireGenerationFences observedAt t,([] : List Event)).1 from purged) rfl
    exact ⟨looped.alike,events⟩

theorem rejected_alike {op : Op} (rejected : op.rejected config s = true) (alike : Alike now s t)
    (ordered : now ≤ op.observedAt) : Alike op.observedAt (perform config s op).1 t := by
  have later := alike.later ordered
  cases op with
  | expireMembers => contradiction
  | accept announcement observedAt =>
    simp only [Op.observedAt,Op.rejected,Bool.not_eq_true'] at later rejected ⊢
    have spec := accept_spec config announcement observedAt s
    simp only [perform]
    generalize accept config announcement observedAt s = result at spec rejected ⊢
    cases spec with
    | own => exact later
    | rejected _ members fences =>
      refine ⟨members.trans later.members,?_⟩
      have cleared : (expireGenerationFences observedAt s).unexpiredFences observedAt =
          s.unexpiredFences observedAt := unexpiredFences_later s (Int.le_refl observedAt)
      rw [State.unexpiredFences,fences]
      exact cleared.trans later.fences
    | created | updated => contradiction

/-- The steps that were kept, with what the full run shows at them. -/
def keptOf (steps : List α) (marks : List Bool) : List α :=
  ((steps.zip marks).filter Prod.snd).map Prod.fst

theorem shown_kept {marked : List (Op × Bool)} (alike : Alike now s t)
    (ordered : (now :: marked.map (·.1.observedAt)).Pairwise (· ≤ ·)) (deletable : Deletable config s marked) :
    shown config t (keptOf (marked.map Prod.fst) (marked.map Prod.snd)) =
      keptOf (shown config s (marked.map Prod.fst)) (marked.map Prod.snd) := by
  induction marked generalizing now s t with
  | nil => rfl
  | cons mark rest ih =>
    obtain ⟨op,kept⟩ := mark
    obtain ⟨first,later⟩ := pairwise_cons.mp ordered
    obtain ⟨removable,deletable⟩ := deletable
    have now := first op.observedAt mem_cons_self
    cases kept with
    | true =>
      obtain ⟨after,events⟩ := perform_alike config op alike now
      have tail := ih after later deletable
      simp only [keptOf,map_cons,zip_cons_cons,filter_cons,shown,if_true] at tail ⊢
      rw [tail,events,after.members,after.fences]
    | false =>
      have after := rejected_alike (removable rfl) alike now
      have tail := ih after later deletable
      simpa [keptOf,shown] using tail

theorem rejected_extends_nothing (config announcement observedAt) (s : State)
    (rejected : (accept config announcement observedAt s).2.accepted = false) :
    (accept config announcement observedAt s).1.members = s.members ∧
      ∀ nodeId fence, (accept config announcement observedAt s).1.generationFences.lookup nodeId = some fence →
        s.generationFences.lookup nodeId = some fence := by
  have spec := accept_spec config announcement observedAt s
  generalize accept config announcement observedAt s = result at spec rejected ⊢
  cases spec with
  | own => exact ⟨rfl,fun _ _ found => found⟩
  | rejected _ members fences =>
    refine ⟨members,fun nodeId fence found => ?_⟩
    rw [fences,expireGenerationFences_lookup,Option.filter_eq_some_iff] at found
    exact found.1
  | created | updated => contradiction

/-- Deleting any of the announcements that a run rejects changes nothing that the remaining steps
show, and a rejected announcement extends neither a lease nor a fence. -/
theorem rejected_invisible (config : DiscoveryConfig) (ops : List Op) (kept : List Bool)
    (marks : ops.length = kept.length) (ordered : (ops.map Op.observedAt).Pairwise (· ≤ ·))
    (deletable : Deletable config initial (ops.zip kept)) :
    shown config initial (keptOf ops kept) = keptOf (shown config initial ops) kept ∧
    ∀ s announcement observedAt, (accept config announcement observedAt s).2.accepted = false →
      (accept config announcement observedAt s).1.members = s.members ∧
      ∀ nodeId fence, (accept config announcement observedAt s).1.generationFences.lookup nodeId = some fence →
        s.generationFences.lookup nodeId = some fence := by
  refine ⟨?_,fun s announcement observedAt => rejected_extends_nothing config announcement observedAt s⟩
  have first : (ops.zip kept).map Prod.fst = ops := map_fst_zip (by omega)
  have second : (ops.zip kept).map Prod.snd = kept := map_snd_zip (by omega)
  have times : (ops.zip kept).map (·.1.observedAt) = ops.map Op.observedAt := by
    rw [← congrArg (map Op.observedAt) first,map_map]
    rfl
  rcases ops with _ | ⟨op,rest⟩
  · simp [keptOf,shown]
  · have start : (op.observedAt :: (op :: rest).map Op.observedAt).Pairwise (· ≤ ·) := by
      refine pairwise_cons.mpr ⟨?_,ordered⟩
      intro time listed
      rcases mem_cons.mp listed with rfl | listed
      · exact Int.le_refl _
      · exact (pairwise_cons.mp ordered).1 time listed
    rw [← times] at start
    have same := shown_kept (s := initial) (t := initial) ⟨rfl,rfl⟩ start deletable
    rwa [first,second] at same

/-- A stale packet and a fenced one between the steps of a lease that ends. -/
def sampleNoise : List Op :=
  [.accept (sampleAnnouncement 2) 0,.accept (sampleAnnouncement 1) 1000000,
    .expireMembers .stored .stored 3000000,.accept (sampleAnnouncement 2) 4000000,
    .accept (sampleAnnouncement 1) 6000000]

theorem rejected_invisible_sample :
    shown sampleConfig initial [.accept (sampleAnnouncement 2) 0,.expireMembers .stored .stored 3000000,
        .accept (sampleAnnouncement 1) 6000000] =
      keptOf (shown sampleConfig initial sampleNoise) [true,false,true,false,true] :=
  (rejected_invisible sampleConfig sampleNoise [true,false,true,false,true] rfl (by decide)
    (by simp only [Deletable,sampleNoise,zip_cons_cons,zip_nil_left]; decide)).1

end AutoRuntime.Discovery
