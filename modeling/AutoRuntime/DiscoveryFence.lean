import AutoRuntime.Discovery

/-! A generation that was accepted once cannot be undercut while its record is active or
its fence stands. The argument follows one accepted announcement: it is covered by the
active record, then by the fence that replaces the record, and it is released only by
the end of the fence window or by an eviction. -/
namespace AutoRuntime.Discovery

open Machine Table AList
open Chrono

/-- The configured fence window in clock ticks, as a mathematical number. -/
def fenceWindow (config : DiscoveryConfig) : Int := config.generationFenceTimeout * 1000000

/-- The fence window, and the expiry time computed at each step, stay in 64 bits. -/
structure NoOverflow (config : DiscoveryConfig) (ops : List Op) : Prop where
  window : Fits (fenceWindow config)
  expiry : ∀ op ∈ ops, Fits (op.observedAt + fenceWindow config)

theorem NoOverflow.after (exact : NoOverflow config ops) (member : op ∈ ops) :
    Chrono.after op.observedAt (milliseconds config.generationFenceTimeout) =
      op.observedAt + fenceWindow config := by
  rw [milliseconds_exact exact.window]
  exact after_exact (exact.expiry op member)

/-- Every active record is stored under its own node id. -/
def Keyed (s : State) : Prop :=
  ∀ nodeId member, s.members.lookup nodeId = some member → member.nodeId = nodeId

@[simp] theorem expireGenerationFences_members (observedAt : Int) (s : State) :
    (expireGenerationFences observedAt s).members = s.members := rfl

@[simp] theorem expireGenerationFences_lookup (observedAt : Int) (s : State)
    (nodeId : NodeId) : (expireGenerationFences observedAt s).generationFences.lookup nodeId =
      (s.generationFences.lookup nodeId).filter (fun fence => observedAt < fence.expiresAt) := by
  simp [expireGenerationFences]

theorem evictOldestFence_members (config order observedAt) (s : State) :
    (evictOldestFence config order observedAt s).1.members = s.members := by
  simp only [evictOldestFence]
  split
  · split <;> rfl
  · rfl

theorem evictOldestFence_lookup (config order observedAt) (s : State) (nodeId : NodeId) :
    (evictOldestFence config order observedAt s).1.generationFences.lookup nodeId =
      s.generationFences.lookup nodeId ∨
    .evicted nodeId observedAt ∈ (evictOldestFence config order observedAt s).2 := by
  simp only [evictOldestFence]
  split
  · split
    next oldest chosen =>
      by_cases same : nodeId = oldest.1
      · exact .inr (by simp [same])
      · exact .inl (by simp [lookup_erase_ne same])
    next => exact .inl rfl
  · exact .inl rfl

theorem rememberGenerationFence_members (config order member observedAt) (s : State) :
    (rememberGenerationFence config order member observedAt s).1.members = s.members := by
  simp only [rememberGenerationFence]
  split
  · rfl
  · exact evictOldestFence_members config order observedAt s

theorem rememberGenerationFence_own (config order member observedAt) (s : State) :
    ∃ fence, (rememberGenerationFence config order member observedAt s).1.generationFences.lookup
        member.nodeId = some fence ∧ member.generation ≤ fence.generation ∧
      fence.expiresAt = after observedAt (milliseconds config.generationFenceTimeout) := by
  simp only [rememberGenerationFence]
  split
  next existing found =>
    refine ⟨fenceFor config (if existing.generation < member.generation then
      member.generation else existing.generation) observedAt,by simp [found],?_,rfl⟩
    simp only [fenceFor]
    split <;> grind
  next => exact ⟨_,lookup_insert _,UInt64.le_refl _,rfl⟩

theorem rememberGenerationFence_other (config order member observedAt) (s : State)
    (apart : nodeId ≠ member.nodeId) :
    (rememberGenerationFence config order member observedAt s).1.generationFences.lookup nodeId =
      s.generationFences.lookup nodeId ∨
    .evicted nodeId observedAt ∈ (rememberGenerationFence config order member observedAt s).2 := by
  simp only [rememberGenerationFence]
  split
  · exact .inl (lookup_modify_other _ _ apart)
  · rcases evictOldestFence_lookup config order observedAt s nodeId with kept | evicted
    · exact .inl (by simpa [lookup_insert_ne apart] using kept)
    · exact .inr evicted

/-- Why an accepted generation may be undercut at time `now`: its record expired since,
and the fence window has passed or the fence was evicted. -/
def Excused (config : DiscoveryConfig) (nodeId : NodeId) (now : Int)
    (since : List Event) : Prop :=
  ∃ before expiry later, since = before ++ .expired nodeId expiry :: later ∧
    (expiry + fenceWindow config ≤ now ∨ ∃ time, .evicted nodeId time ∈ later)

/-- Where an accepted generation is remembered after the events `since` its acceptance. -/
inductive Covered (config : DiscoveryConfig) (nodeId : NodeId) (generation : UInt64)
    (now : Int) (s : State) (since : List Event) : Prop
  | excused : Excused config nodeId now since → Covered config nodeId generation now s since
  | active (member : MemberRecord) : s.members.lookup nodeId = some member →
      generation ≤ member.generation →
      ((∃ expiry, .expired nodeId expiry ∈ since) → generation < member.generation) →
      Covered config nodeId generation now s since
  | fenced (fence : GenerationFence) (before : List Event) (expiry : Int) (later : List Event) :
      s.members.lookup nodeId = none → s.generationFences.lookup nodeId = some fence →
      generation ≤ fence.generation → fence.expiresAt = expiry + fenceWindow config →
      since = before ++ .expired nodeId expiry :: later →
      Covered config nodeId generation now s since

theorem Excused.extend (excused : Excused config nodeId now since) (ordered : now ≤ next)
    (events : List Event) : Excused config nodeId next (since ++ events) := by
  obtain ⟨before,expiry,later,rfl,reason⟩ := excused
  refine ⟨before,expiry,later ++ events,by simp,?_⟩
  rcases reason with passed | ⟨time,evicted⟩
  · exact .inl (by omega)
  · exact .inr ⟨time,List.mem_append_left _ evicted⟩

theorem Covered.expireGenerationFences
    (covered : Covered config nodeId generation now s since) (ordered : now ≤ observedAt) :
    Covered config nodeId generation observedAt (expireGenerationFences observedAt s) since := by
  cases covered with
  | excused reason => exact .excused (by simpa using reason.extend ordered [])
  | active member found bound strict => exact .active member found bound strict
  | fenced fence before expiry later absent found bound window split =>
    by_cases standing : observedAt < fence.expiresAt
    · exact .fenced fence before expiry later absent (by simp [found,standing]) bound window split
    · exact .excused ⟨before,expiry,later,split,.inl (by omega)⟩

/-- Events of other nodes and acceptances never end a record, so they keep the cover. -/
theorem Covered.frame (covered : Covered config nodeId generation now s since)
    (t : State) (events : List Event) (ordered : now ≤ next)
    (members : t.members.lookup nodeId = s.members.lookup nodeId)
    (fences : t.generationFences.lookup nodeId = s.generationFences.lookup nodeId ∨
      ∃ time, .evicted nodeId time ∈ events)
    (quiet : ∀ expiry, .expired nodeId expiry ∉ events) :
    Covered config nodeId generation next t (since ++ events) := by
  cases covered with
  | excused reason => exact .excused (reason.extend ordered events)
  | active member found bound strict =>
    refine .active member (members.trans found) bound ?_
    rintro ⟨expiry,occurs⟩
    rcases List.mem_append.mp occurs with old | fresh
    · exact strict ⟨expiry,old⟩
    · exact absurd fresh (quiet expiry)
  | fenced fence before expiry later absent found bound window split =>
    rcases fences with kept | ⟨time,evicted⟩
    · exact .fenced fence before expiry (later ++ events) (members.trans absent)
        (kept.trans found) bound window (by simp [split])
    · exact .excused ⟨before,expiry,later ++ events,by simp [split],
        .inr ⟨time,List.mem_append_right _ evicted⟩⟩

theorem evictOldestFence_quiet (config order observedAt) (s : State) (nodeId expiry) :
    .expired nodeId expiry ∉ (evictOldestFence config order observedAt s).2 := by
  simp only [evictOldestFence]
  split
  · split <;> simp
  · simp

theorem rememberGenerationFence_quiet (config order member observedAt) (s : State)
    (nodeId expiry) :
    .expired nodeId expiry ∉ (rememberGenerationFence config order member observedAt s).2 := by
  simp only [rememberGenerationFence]
  split
  · simp
  · exact evictOldestFence_quiet config order observedAt s nodeId expiry

theorem expireMember_members (config order observedAt progress) (entry : Σ _ : NodeId, MemberRecord)
    (apart : nodeId ≠ entry.1) :
    (expireMember config order observedAt progress entry).1.members.lookup nodeId =
      progress.1.members.lookup nodeId := by
  simp only [expireMember]
  split
  · simp [lookup_erase_ne apart,rememberGenerationFence_members]
  · rfl

/-- The induction rule of the expiry loop: each turn finds the record it visits. -/
theorem expireMembers_rule {motive : State × List Event → Prop}
    (turn : ∀ progress entry, motive progress → progress.1.members.lookup entry.1 = some entry.2 →
      motive (expireMember config order observedAt progress entry))
    (start : motive (expireGenerationFences observedAt s,[])) :
    motive (expireMembers config order visit observedAt s) := by
  have loop (entries : List (Σ _ : NodeId, MemberRecord)) (progress : State × List Event)
      (held : motive progress) (distinct : entries.NodupKeys)
      (current : ∀ entry ∈ entries, progress.1.members.lookup entry.1 = some entry.2) :
      motive (entries.foldl (expireMember config order observedAt) progress) := by
    induction entries generalizing progress with
    | nil => exact held
    | cons entry entries ih =>
      obtain ⟨fresh,distinct⟩ := List.nodupKeys_cons.mp distinct
      refine ih _ (turn progress entry held (current entry List.mem_cons_self)) distinct ?_
      intro other member
      have apart : other.1 ≠ entry.1 := by
        intro same
        exact fresh (same ▸ List.mem_keys_of_mem member)
      rw [expireMember_members config order observedAt progress entry apart]
      exact current other (List.mem_cons_of_mem _ member)
  apply loop _ _ start
  · exact (List.perm_nodupKeys (visit.perm s.members.entries)).mpr s.members.nodupKeys
  · intro entry member
    exact lookup_eq_some_iff.mpr ((visit.perm _).mem_iff.mp member)

theorem expireMember_ended (config order observedAt progress) (entry : Σ _ : NodeId, MemberRecord)
    (ended : milliseconds config.leaseTimeout < elapsed observedAt entry.2.lastSeen) :
    (expireMember config order observedAt progress entry).1.members = progress.1.members.erase entry.1 ∧
    (expireMember config order observedAt progress entry).1.generationFences =
      (rememberGenerationFence config order entry.2 observedAt progress.1).1.generationFences ∧
    (expireMember config order observedAt progress entry).2 = progress.2 ++
      ((rememberGenerationFence config order entry.2 observedAt progress.1).2 ++
        [.expired entry.1 observedAt]) := by
  simp [expireMember,ended,rememberGenerationFence_members]

theorem Covered.expireMember {progress : State × List Event} {entry : Σ _ : NodeId, MemberRecord}
    (covered : Covered config nodeId generation observedAt progress.1 (since ++ progress.2))
    (current : progress.1.members.lookup entry.1 = some entry.2) (keyed : entry.2.nodeId = entry.1)
    (window : after observedAt (milliseconds config.generationFenceTimeout) =
      observedAt + fenceWindow config) :
    Covered config nodeId generation observedAt (expireMember config order observedAt progress entry).1
      (since ++ (Discovery.expireMember config order observedAt progress entry).2) := by
  by_cases ended : milliseconds config.leaseTimeout < elapsed observedAt entry.2.lastSeen
  · obtain ⟨members,fences,events⟩ := expireMember_ended config order observedAt progress entry ended
    rw [events,← List.append_assoc]
    by_cases same : nodeId = entry.1
    · subst same
      cases covered with
      | excused reason => exact .excused (reason.extend (Int.le_refl _) _)
      | active member found bound =>
        obtain rfl : entry.2 = member := Option.some.inj (current.symm.trans found)
        obtain ⟨fence,stored,kept,expiry⟩ :=
          rememberGenerationFence_own config order entry.2 observedAt progress.1
        refine .fenced fence _ observedAt [] ?_ ?_ (UInt64.le_trans bound kept)
          (expiry.trans window) (List.append_assoc _ _ _).symm
        · rw [members,lookup_erase]
        · rw [fences,← keyed,stored]
      | fenced _ _ _ _ absent => simp [current] at absent
    · apply covered.frame _ _ (Int.le_refl _)
      · rw [members,lookup_erase_ne same]
      · rw [fences]
        rcases rememberGenerationFence_other config order entry.2 observedAt progress.1
          (keyed.symm ▸ same) with kept | evicted
        · exact .inl kept
        · exact .inr ⟨observedAt,List.mem_append_left _ evicted⟩
      · intro expiry occurs
        rcases List.mem_append.mp occurs with early | last
        · exact rememberGenerationFence_quiet _ _ _ _ _ _ _ early
        · simp [same] at last
  · simpa [Discovery.expireMember,ended] using covered

/-- The exits of `Accept`, with what each of them does to the two tables. -/
inductive AcceptSpec (config : DiscoveryConfig) (announcement : Announcement) (observedAt : Int)
    (s : State) : State × Outcome → Prop
  | own : AcceptSpec config announcement observedAt s (s,.ownNode)
  | rejected : outcome.accepted = false → t.members = s.members →
      t.generationFences = (expireGenerationFences observedAt s).generationFences →
      AcceptSpec config announcement observedAt s (t,outcome)
  | created : s.members.lookup announcement.nodeId = none →
      (∀ fence, (expireGenerationFences observedAt s).generationFences.lookup announcement.nodeId =
        some fence → fence.generation < announcement.generation) →
      t.members = s.members.insert announcement.nodeId ⟨announcement.nodeId,announcement.generation,
        announcement.sequence,announcement.rpcEndpoint,observedAt⟩ →
      t.generationFences = (expireGenerationFences observedAt s).generationFences.erase
        announcement.nodeId →
      AcceptSpec config announcement observedAt s (t,.created)
  | updated (member : MemberRecord) : s.members.lookup announcement.nodeId = some member →
      member.generation ≤ announcement.generation →
      t.members = s.members.modify announcement.nodeId (fun member =>
        { member with
          generation := announcement.generation
          heartbeatSequence := announcement.sequence
          rpcEndpoint := announcement.rpcEndpoint
          lastSeen := observedAt }) →
      t.generationFences = (expireGenerationFences observedAt s).generationFences →
      AcceptSpec config announcement observedAt s (t,.updated)

theorem enlist_spec (config announcement observedAt) (s : State) :
    AcceptSpec config announcement observedAt s (enlist config announcement observedAt
      (expireGenerationFences observedAt (s.tally count))) := by
  simp only [enlist]
  split
  next absent =>
    split
    · exact .rejected rfl rfl rfl
    next passed =>
      split
      · exact .rejected rfl rfl rfl
      · refine .created absent ?_ rfl rfl
        intro fence found
        have standing : ¬announcement.generation ≤ fence.generation := by
          intro bound
          apply passed
          rw [show (expireGenerationFences observedAt (s.tally count)).generationFences =
            (expireGenerationFences observedAt s).generationFences from rfl,found]
          simpa using bound
        exact UInt64.not_le.mp standing
  next member found =>
    split
    · exact .rejected rfl rfl rfl
    next newer =>
      split
      · exact .rejected rfl rfl rfl
      · exact .updated member found (UInt64.not_lt.mp newer) rfl rfl

theorem accept_spec (config announcement observedAt) (s : State) :
    AcceptSpec config announcement observedAt s (accept config announcement observedAt s) := by
  simp only [accept]
  split
  · exact .own
  · exact enlist_spec config announcement observedAt s

theorem accept_keyed (config announcement observedAt) (keyed : Keyed s) :
    Keyed (accept config announcement observedAt s).1 := by
  have spec := accept_spec config announcement observedAt s
  generalize accept config announcement observedAt s = result at spec
  intro nodeId member found
  cases spec with
  | own => exact keyed nodeId member found
  | rejected _ members => exact keyed nodeId member (members ▸ found)
  | created _ _ members =>
    rw [members] at found
    rcases insert_cases found with ⟨rfl,rfl⟩ | ⟨-,old⟩
    · rfl
    · exact keyed nodeId member old
  | updated old present _ members =>
    rw [members] at found
    by_cases same : nodeId = announcement.nodeId
    · subst same
      rw [lookup_modify_same,present] at found
      have name := keyed _ _ present
      exact Option.some.inj found ▸ name
    · exact keyed nodeId member (by rwa [lookup_modify_other _ _ same] at found)

theorem expireMember_keyed (config order observedAt progress) (entry : Σ _ : NodeId, MemberRecord)
    (keyed : Keyed progress.1) : Keyed (expireMember config order observedAt progress entry).1 := by
  intro nodeId member found
  by_cases same : nodeId = entry.1
  · subst same
    by_cases ended : milliseconds config.leaseTimeout < elapsed observedAt entry.2.lastSeen
    · rw [(expireMember_ended config order observedAt progress entry ended).1,
        lookup_erase] at found
      contradiction
    · exact keyed entry.1 member (by simpa [expireMember,ended] using found)
  · exact keyed nodeId member
      (by rwa [expireMember_members config order observedAt progress entry same] at found)

theorem perform_keyed (config op) (keyed : Keyed s) : Keyed (perform config s op).1 := by
  cases op with
  | accept announcement observedAt => exact accept_keyed config announcement observedAt keyed
  | expireMembers order visit observedAt =>
    apply expireMembers_rule (motive := fun progress => Keyed progress.1)
    · exact fun progress entry held _ => expireMember_keyed config order observedAt progress entry held
    · exact keyed

theorem Covered.undercut (covered : Covered config nodeId generation now s since)
    (ordered : now ≤ observedAt) (same : announcement.nodeId = nodeId)
    (spec : AcceptSpec config announcement observedAt s (t,outcome))
    (accepted : outcome.accepted = true)
    (undercut : announcement.generation < generation ∨
      announcement.generation = generation ∧ ∃ expiry, .expired nodeId expiry ∈ since) :
    Excused config nodeId observedAt since := by
  subst same
  cases covered with
  | excused reason => simpa using reason.extend ordered []
  | active member found bound strict =>
    cases spec with
    | own => simp [Outcome.accepted] at accepted
    | rejected refused => simp [refused] at accepted
    | created absent => simp [found] at absent
    | updated old present =>
      rcases undercut with below | ⟨equal,expired⟩
      · grind
      · have := strict expired
        grind
  | fenced fence before expiry later absent found bound window split =>
    by_cases standing : observedAt < fence.expiresAt
    · cases spec with
      | own => simp [Outcome.accepted] at accepted
      | rejected refused => simp [refused] at accepted
      | created _ above =>
        have := above fence (by simp [found,standing])
        rcases undercut with below | ⟨equal,_⟩ <;> grind
      | updated _ present => simp [absent] at present
    · exact ⟨before,expiry,later,split,.inl (by omega)⟩

/-- `Accept` keeps every older cover, whichever exit it takes. -/
theorem Covered.accept (covered : Covered config nodeId generation now s since)
    (ordered : now ≤ observedAt)
    (spec : AcceptSpec config announcement observedAt s (t,outcome)) :
    Covered config nodeId generation observedAt t
      (since ++ [.announced announcement observedAt outcome]) := by
  have quiet : ∀ expiry, Event.expired nodeId expiry ∉
      [Event.announced announcement observedAt outcome] := by simp
  have purged := covered.expireGenerationFences ordered
  cases spec with
  | own => exact covered.frame s _ ordered rfl (.inl rfl) quiet
  | rejected _ members fences =>
    exact purged.frame t _ (Int.le_refl _) (by rw [members]; rfl) (.inl (by rw [fences])) quiet
  | created absent above members fences =>
    by_cases same : nodeId = announcement.nodeId
    · subst same
      cases purged with
      | excused reason => exact .excused (reason.extend (Int.le_refl _) _)
      | active member found => simp [absent] at found
      | fenced fence before expiry later _ found =>
        refine .active _ (by rw [members,lookup_insert]) ?_ fun _ => ?_
        · have := above fence found
          grind
        · have := above fence found
          grind
    · exact purged.frame t _ (Int.le_refl _) (by rw [members,lookup_insert_ne same]; rfl)
        (.inl (by rw [fences,lookup_erase_ne same])) quiet
  | updated member found newer members fences =>
    by_cases same : nodeId = announcement.nodeId
    · subst same
      cases purged with
      | excused reason => exact .excused (reason.extend (Int.le_refl _) _)
      | active old present bound strict =>
        cases found.symm.trans present
        refine .active _ (by rw [members,lookup_modify_same,found]; rfl)
          (UInt64.le_trans bound newer) ?_
        rintro ⟨expiry,occurs⟩
        grind
      | fenced _ _ _ _ absent => simp [found] at absent
    · exact purged.frame t _ (Int.le_refl _) (by rw [members,lookup_modify_other _ _ same]; rfl)
        (.inl (by rw [fences])) quiet

/-- An acceptance starts its own cover: the record it leaves carries its generation. -/
theorem Covered.fresh (spec : AcceptSpec config announcement observedAt s (t,outcome))
    (accepted : outcome.accepted = true) :
    Covered config announcement.nodeId announcement.generation observedAt t [] := by
  cases spec with
  | own => simp [Outcome.accepted] at accepted
  | rejected refused => simp [refused] at accepted
  | created _ _ members =>
    exact .active _ (by rw [members,lookup_insert]) (UInt64.le_refl _) (by simp)
  | updated _ found _ members =>
    exact .active _ (by rw [members,lookup_modify_same,found]; rfl) (UInt64.le_refl _) (by simp)

theorem evictOldestFence_unannounced (config order observedAt) (s : State) (a time outcome) :
    .announced a time outcome ∉ (evictOldestFence config order observedAt s).2 := by
  simp only [evictOldestFence]
  split
  · split <;> simp
  · simp

theorem expireMember_unannounced (config order observedAt progress)
    (entry : Σ _ : NodeId, MemberRecord) (a time outcome)
    (silent : .announced a time outcome ∉ progress.2) :
    .announced a time outcome ∉ (expireMember config order observedAt progress entry).2 := by
  simp only [expireMember]
  split
  · intro occurs
    rcases List.mem_append.mp occurs with old | occurs
    · exact silent old
    rcases List.mem_append.mp occurs with remembered | last
    · simp only [rememberGenerationFence] at remembered
      split at remembered
      · simp at remembered
      · exact evictOldestFence_unannounced _ _ _ _ _ _ _ remembered
    · simp at last
  · exact silent

theorem expireMembers_unannounced (config order visit observedAt) (s : State) (a time outcome) :
    .announced a time outcome ∉ (expireMembers config order visit observedAt s).2 := by
  apply expireMembers_rule (motive := fun progress => .announced a time outcome ∉ progress.2)
  · exact fun progress entry silent _ =>
      expireMember_unannounced config order observedAt progress entry a time outcome silent
  · simp

/-- Every acceptance in the history is still covered at time `now`. -/
def Remembered (config : DiscoveryConfig) (now : Int) (s : State) (history : List Event) : Prop :=
  ∀ before announcement time outcome since,
    history = before ++ .announced announcement time outcome :: since →
    outcome.accepted = true →
    Covered config announcement.nodeId announcement.generation now s since

/-- No acceptance in the history undercuts an earlier one without an excuse. -/
def Respected (config : DiscoveryConfig) (history : List Event) : Prop :=
  ∀ before first firstAt firstOutcome since second secondAt secondOutcome rest,
    history = before ++ .announced first firstAt firstOutcome ::
      (since ++ .announced second secondAt secondOutcome :: rest) →
    firstOutcome.accepted = true → secondOutcome.accepted = true →
    second.nodeId = first.nodeId →
    (second.generation < first.generation ∨ second.generation = first.generation ∧
      ∃ expiry, .expired first.nodeId expiry ∈ since) →
    Excused config first.nodeId secondAt since

theorem Remembered.later (held : Remembered config now s history) (ordered : now ≤ next) :
    Remembered config next s history := by
  intro before announcement time outcome since split accepted
  have framed := (held before announcement time outcome since split accepted).frame s []
    ordered rfl (.inl rfl) (by simp)
  simpa using framed

/-- Only `accept` announces, and nothing else. -/
theorem perform_announced (config : DiscoveryConfig) (op : Op) (s : State)
    (announced : (perform config s op).2 = between ++ .announced announcement time outcome :: rest) :
    between = [] ∧ rest = [] ∧ op = .accept announcement time ∧
      (accept config announcement time s).2 = outcome := by
  cases op with
  | accept current observedAt =>
    obtain ⟨rfl,rfl⟩ : between = [] ∧ rest = [] := by
      have lengths := congrArg List.length announced
      simp [perform] at lengths
      constructor <;> apply List.length_eq_zero_iff.mp <;> omega
    simp only [perform,List.nil_append,List.cons.injEq,and_true,Event.announced.injEq] at announced
    obtain ⟨rfl,rfl,rfl⟩ := announced
    exact ⟨rfl,rfl,rfl,rfl⟩
  | expireMembers order visit observedAt =>
    have occurs : .announced announcement time outcome ∈ (expireMembers config order visit observedAt s).2 := by
      change (expireMembers config order visit observedAt s).2 = _ at announced
      simp [announced]
    exact absurd occurs (expireMembers_unannounced _ _ _ _ _ _ _ _)

theorem perform_remembered (config : DiscoveryConfig) (op : Op) (keyed : Keyed s)
    (window : after op.observedAt (milliseconds config.generationFenceTimeout) =
      op.observedAt + fenceWindow config)
    (held : Remembered config op.observedAt s history) :
    Remembered config op.observedAt (perform config s op).1 (history ++ (perform config s op).2) := by
  intro before announcement time outcome since split accepted
  rcases history_split split with ⟨between,old,rfl⟩ | ⟨between,fresh,_⟩
  · have covered := held before announcement time outcome between old accepted
    cases op with
    | accept current observedAt =>
      exact covered.accept (Int.le_refl _) (accept_spec config current observedAt s)
    | expireMembers order visit observedAt =>
      simp only [Op.observedAt] at covered window ⊢
      have purged := covered.expireGenerationFences (Int.le_refl _)
      refine (expireMembers_rule (motive := fun progress => Keyed progress.1 ∧
        Covered config announcement.nodeId announcement.generation observedAt progress.1
          (between ++ progress.2)) ?_ ⟨keyed,by simpa using purged⟩).2
      rintro progress entry ⟨keyed,covered⟩ current
      exact ⟨expireMember_keyed config order observedAt progress entry keyed,
        covered.expireMember current (keyed _ _ current) window⟩
  · obtain ⟨rfl,rfl,rfl,rfl⟩ := perform_announced config op s fresh
    exact .fresh (accept_spec config announcement time s) accepted

theorem perform_respected (config : DiscoveryConfig) (op : Op)
    (held : Remembered config op.observedAt s history) (respected : Respected config history) :
    Respected config (history ++ (perform config s op).2) := by
  intro before first firstAt firstOutcome since second secondAt secondOutcome rest split
    firstAccepted secondAccepted same undercut
  rw [← List.cons_append,← List.append_assoc] at split
  rcases history_split split with ⟨between,old,_⟩ | ⟨between,fresh,old⟩
  · exact respected before first firstAt firstOutcome since second secondAt secondOutcome between
      (by simpa using old) firstAccepted secondAccepted same undercut
  · obtain ⟨rfl,rfl,rfl,rfl⟩ := perform_announced config op s fresh
    have covered := held before first firstAt firstOutcome since (by simpa using old.symm) firstAccepted
    exact covered.undercut (Int.le_refl _) same (accept_spec config second secondAt s) secondAccepted undercut

/-- Over every ordered run the history respects every accepted generation. -/
theorem run_respected (config : DiscoveryConfig) (ops : List Op)
    (ordered : (ops.map Op.observedAt).Pairwise (· ≤ ·)) (exact : NoOverflow config ops)
    (ran : (service config).run initial ops = some (s,history)) : Respected config history := by
  have rule := run_rule
    (motive := fun s history rest => Keyed s ∧ (rest.map Op.observedAt).Pairwise (· ≤ ·) ∧
      NoOverflow config rest ∧ (∀ op ∈ rest, Remembered config op.observedAt s history) ∧
      Respected config history)
    (m := service config) (s := initial) ?_ ⟨?_,ordered,exact,?_,?_⟩ ran
  · exact rule.2.2.2.2
  · rintro s history op rest t emitted ⟨keyed,ordered,exact,held,respected⟩ stepped
    obtain ⟨rfl,rfl⟩ : (perform config s op).1 = t ∧ (perform config s op).2 = emitted := by
      simpa [service,Prod.ext_iff] using stepped
    have now := held op List.mem_cons_self
    simp only [List.map_cons,List.pairwise_cons,List.mem_map,forall_exists_index,and_imp,
      forall_apply_eq_imp_iff₂] at ordered
    refine ⟨perform_keyed config op keyed,ordered.2,?_,?_,perform_respected config op now respected⟩
    · exact ⟨exact.window,fun other member => exact.expiry other (List.mem_cons_of_mem _ member)⟩
    · intro other member
      have performed := perform_remembered config op keyed (exact.after List.mem_cons_self) now
      exact performed.later (ordered.1 other member)
  · intro nodeId member found
    simp [initial] at found
  · intro op _ before announcement time outcome since split
    simp at split
  · intro before first firstAt firstOutcome since second secondAt secondOutcome rest split
    simp at split

/-- No resurrection: an acceptance that undercuts an earlier one, or repeats its generation
after the record expired, comes only after the fence window or after an eviction. -/
theorem generation_fence (config : DiscoveryConfig) (ops : List Op)
    (ordered : (ops.map Op.observedAt).Pairwise (· ≤ ·)) (exact : NoOverflow config ops)
    (before since rest : List Event)
    (ran : (service config).run initial ops = some (s,history))
    (split : history = before ++ .announced first firstAt firstOutcome ::
      (since ++ .announced second secondAt secondOutcome :: rest))
    (firstAccepted : firstOutcome.accepted = true) (secondAccepted : secondOutcome.accepted = true)
    (same : second.nodeId = first.nodeId)
    (undercut : second.generation < first.generation ∨
      second.generation = first.generation ∧ ∃ expiry, .expired first.nodeId expiry ∈ since) :
    ∃ earlier expiry later, since = earlier ++ .expired first.nodeId expiry :: later ∧
      (expiry + fenceWindow config ≤ secondAt ∨ ∃ time, .evicted first.nodeId time ∈ later) :=
  run_respected config ops ordered exact ran before first firstAt firstOutcome since second
    secondAt secondOutcome rest split firstAccepted secondAccepted same undercut

def sampleConfig : DiscoveryConfig :=
  ⟨[1],1,⟨[],0⟩,⟨[],0⟩,[],1,2,3,4,4,4⟩

def sampleAnnouncement (generation : UInt64) : Announcement := ⟨[2],generation,1,⟨[],0⟩⟩

/-- Generation 2 expires at 3 ms behind a 3 ms fence; generation 1 is accepted at 6 ms. -/
def sampleOps : List Op :=
  [.accept (sampleAnnouncement 2) 0,.expireMembers .stored .stored 3000000,
    .accept (sampleAnnouncement 1) 6000000]

theorem generation_fence_sample : ∃ s,
    (service sampleConfig).run initial sampleOps = some (s,[.announced (sampleAnnouncement 2) 0 .created,
      .expired [2] 3000000,.announced (sampleAnnouncement 1) 6000000 .created]) ∧
    ∃ earlier expiry later, [Event.expired [2] 3000000] = earlier ++ .expired [2] expiry :: later ∧
      (expiry + fenceWindow sampleConfig ≤ 6000000 ∨ ∃ time, .evicted [2] time ∈ later) := by
  refine ⟨_,rfl,?_⟩
  exact generation_fence sampleConfig sampleOps (by decide) ⟨by decide,by decide⟩ [] [_] [] rfl rfl
    rfl rfl rfl (.inl (by decide))

end AutoRuntime.Discovery
