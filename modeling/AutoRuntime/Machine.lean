import Mathlib.Data.List.Basic

/-! Machines with a partial step. A run is a finite list of actions and its history is
everything the steps emit, in order. An action that is not enabled has no step, so a run
is an interleaving that the parties really can take. -/
structure Machine (σ α ε : Type) where
  step : σ → α → Option (σ × List ε)

namespace Machine

def run (m : Machine σ α ε) : σ → List α → Option (σ × List ε)
  | s, [] => some (s,[])
  | s, a :: rest =>
    match m.step s a with
    | none => none
    | some (t,emitted) =>
      match run m t rest with
      | none => none
      | some (u,later) => some (u,emitted ++ later)

variable {m : Machine σ α ε}

@[simp] theorem run_nil_iff : m.run s [] = some (t,history) ↔ s = t ∧ history = [] := by
  simp [run]

theorem run_cons_iff : m.run s (a :: rest) = some (u,history) ↔
    ∃ t emitted later, m.step s a = some (t,emitted) ∧
      m.run t rest = some (u,later) ∧ history = emitted ++ later := by
  constructor
  · intro ran
    simp only [run] at ran
    split at ran
    · contradiction
    next t emitted stepped =>
      split at ran
      · contradiction
      next v later continued =>
        cases ran
        exact ⟨t,emitted,later,stepped,continued,rfl⟩
  · rintro ⟨t,emitted,later,stepped,continued,rfl⟩
    simp [run,stepped,continued]

theorem run_concat (ran : m.run s actions = some (t,history)) (stepped : m.step t a = some (u,emitted)) :
    m.run s (actions ++ [a]) = some (u,history ++ emitted) := by
  induction actions generalizing s history with
  | nil =>
    obtain ⟨rfl,rfl⟩ := run_nil_iff.mp ran
    exact run_cons_iff.mpr ⟨u,emitted,[],stepped,rfl,by simp⟩
  | cons b rest ih =>
    obtain ⟨v,first,later,taken,continued,rfl⟩ := run_cons_iff.mp ran
    exact run_cons_iff.mpr ⟨v,first,later ++ emitted,taken,ih continued,List.append_assoc _ _ _⟩

theorem run_rule_from {motive : σ → List ε → List α → Prop}
    (preserved : ∀ s history a rest t emitted, motive s history (a :: rest) →
      m.step s a = some (t,emitted) → motive t (history ++ emitted) rest)
    (start : motive s earlier actions) (ran : m.run s actions = some (t,history)) :
    motive t (earlier ++ history) [] := by
  induction actions generalizing s earlier history with
  | nil =>
    obtain ⟨rfl,rfl⟩ := run_nil_iff.mp ran
    simpa using start
  | cons a rest ih =>
    obtain ⟨u,emitted,later,stepped,continued,rfl⟩ := run_cons_iff.mp ran
    have next := preserved _ _ _ _ _ _ start stepped
    simpa using ih next continued

/-- The induction rule for runs. The property may speak about the history so far and
about the actions still to come, so that a condition on the whole schedule is consumed
step by step. -/
theorem run_rule {motive : σ → List ε → List α → Prop}
    (preserved : ∀ s history a rest t emitted, motive s history (a :: rest) →
      m.step s a = some (t,emitted) → motive t (history ++ emitted) rest)
    (start : motive s [] actions) (ran : m.run s actions = some (t,history)) :
    motive t history [] :=
  run_rule_from preserved start ran

/-- Every step of the schedule is taken in a state that meets the guard. -/
def Along (m : Machine σ α ε) (guard : σ → α → Prop) : σ → List α → Prop
  | _, [] => True
  | s, a :: rest => guard s a ∧ ∀ t emitted, m.step s a = some (t,emitted) → Along m guard t rest

/-- A state property that every guarded step preserves holds after every guarded run. -/
theorem run_along {guard : σ → α → Prop} {motive : σ → List ε → Prop}
    (preserved : ∀ s history a t emitted, motive s history → guard s a →
      m.step s a = some (t,emitted) → motive t (history ++ emitted))
    (start : motive s []) (along : m.Along guard s actions)
    (ran : m.run s actions = some (t,history)) : motive t history := by
  have rule := run_rule (motive := fun s history rest => motive s history ∧ m.Along guard s rest)
    (fun s history a rest t emitted held stepped =>
      ⟨preserved s history a t emitted held.1 held.2.1 stepped,held.2.2 t emitted stepped⟩)
    ⟨start,along⟩ ran
  exact rule.1

theorem along_cons {guard : σ → α → Prop} (stepped : m.step s a = some (t,emitted)) :
    m.Along guard s (a :: rest) ↔ guard s a ∧ m.Along guard t rest := by
  simp [Along,stepped]

theorem run_along_iff_from {guard : σ → α → Prop} {invariant : σ → List ε → Prop} {holds : List ε → Prop}
    (preserved : ∀ s history a t emitted, invariant s history →
      m.step s a = some (t,emitted) → invariant t (history ++ emitted))
    (gains : ∀ s history a t emitted, invariant s history → m.step s a = some (t,emitted) →
      (holds (history ++ emitted) ↔ holds history ∧ guard s a))
    (start : invariant s earlier) (ran : m.run s actions = some (t,history)) :
    holds (earlier ++ history) ↔ holds earlier ∧ m.Along guard s actions := by
  induction actions generalizing s earlier history with
  | nil =>
    obtain ⟨rfl,rfl⟩ := run_nil_iff.mp ran
    simp [Along]
  | cons a rest ih =>
    obtain ⟨u,emitted,later,stepped,continued,rfl⟩ := run_cons_iff.mp ran
    have rest := ih (preserved _ _ _ _ _ start stepped) continued
    rw [← List.append_assoc,rest,gains _ _ _ _ _ start stepped,along_cons stepped,and_assoc]

/-- Where a history property gains exactly the guard at every step, it holds after a run
exactly when the whole run was guarded. -/
theorem run_along_iff {guard : σ → α → Prop} {invariant : σ → List ε → Prop} {holds : List ε → Prop}
    (preserved : ∀ s history a t emitted, invariant s history →
      m.step s a = some (t,emitted) → invariant t (history ++ emitted))
    (gains : ∀ s history a t emitted, invariant s history → m.step s a = some (t,emitted) →
      (holds (history ++ emitted) ↔ holds history ∧ guard s a))
    (start : invariant s []) (empty : holds []) (ran : m.run s actions = some (t,history)) :
    holds history ↔ m.Along guard s actions :=
  (run_along_iff_from preserved gains start ran).trans (and_iff_right empty)

/-- Some guarded run leads from one state to the other, with this history. -/
def Reaches (m : Machine σ α ε) (guard : σ → α → Prop) (s t : σ) (history : List ε) : Prop :=
  ∃ actions, m.Along guard s actions ∧ m.run s actions = some (t,history)

theorem Reaches.refl {guard : σ → α → Prop} : m.Reaches guard s s [] := ⟨[],trivial,rfl⟩

theorem Reaches.head {guard : σ → α → Prop} (rest : m.Reaches guard t u later) (allowed : guard s a)
    (stepped : m.step s a = some (t,emitted)) : m.Reaches guard s u (emitted ++ later) := by
  obtain ⟨actions,along,ran⟩ := rest
  exact ⟨a :: actions,(along_cons stepped).mpr ⟨allowed,along⟩,
    run_cons_iff.mpr ⟨t,emitted,later,stepped,ran,rfl⟩⟩

/-- Unguarded form: an invariant of the step is an invariant of every run. -/
theorem run_invariant {motive : σ → List ε → Prop}
    (preserved : ∀ s history a t emitted, motive s history →
      m.step s a = some (t,emitted) → motive t (history ++ emitted))
    (start : motive s []) (ran : m.run s actions = some (t,history)) : motive t history :=
  run_rule (motive := fun s history _ => motive s history)
    (fun s history a _ t emitted held stepped => preserved s history a t emitted held stepped)
    start ran

/-- What an observer notes down along a run, who sees every action and the state it is taken in. -/
def notes (m : Machine σ α ε) (record : σ → α → γ → γ) : σ → List α → γ → γ
  | _, [], note => note
  | s, a :: rest, note =>
    match m.step s a with
    | none => note
    | some (t,_) => notes m record t rest (record s a note)

theorem run_notes_from {record : σ → α → γ → γ} {motive : σ → List ε → γ → Prop}
    (preserved : ∀ s history note a t emitted, motive s history note →
      m.step s a = some (t,emitted) → motive t (history ++ emitted) (record s a note))
    (start : motive s earlier note) (ran : m.run s actions = some (t,history)) :
    motive t (earlier ++ history) (m.notes record s actions note) := by
  induction actions generalizing s earlier note history with
  | nil =>
    obtain ⟨rfl,rfl⟩ := run_nil_iff.mp ran
    simpa [notes] using start
  | cons a rest ih =>
    obtain ⟨u,emitted,later,stepped,continued,rfl⟩ := run_cons_iff.mp ran
    have next := preserved _ _ _ _ _ _ start stepped
    simpa [notes,stepped] using ih next continued

/-- The induction rule for a run with an observer. -/
theorem run_notes {record : σ → α → γ → γ} {motive : σ → List ε → γ → Prop}
    (preserved : ∀ s history note a t emitted, motive s history note →
      m.step s a = some (t,emitted) → motive t (history ++ emitted) (record s a note))
    (start : motive s [] note) (ran : m.run s actions = some (t,history)) :
    motive t history (m.notes record s actions note) :=
  run_notes_from preserved start ran

/-- The property holds in the first state, in the last one and in every state between. -/
def Throughout (m : Machine σ α ε) (property : σ → Prop) : σ → List α → Prop
  | s, [] => property s
  | s, a :: rest => property s ∧
      ∀ t emitted, m.step s a = some (t,emitted) → Throughout m property t rest

theorem throughout_cons (stepped : m.step s a = some (t,emitted)) :
    m.Throughout property s (a :: rest) ↔ property s ∧ m.Throughout property t rest := by
  simp [Throughout,stepped]

theorem Throughout.start (throughout : m.Throughout property s actions) : property s := by
  cases actions with
  | nil => exact throughout
  | cons => exact throughout.1

theorem Throughout.reached (throughout : m.Throughout property s (first ++ second))
    (ran : m.run s first = some (t,history)) : property t := by
  induction first generalizing s history with
  | nil =>
    obtain ⟨rfl,rfl⟩ := run_nil_iff.mp ran
    exact throughout.start
  | cons a rest ih =>
    obtain ⟨u,emitted,later,stepped,continued,rfl⟩ := run_cons_iff.mp ran
    exact ih (throughout.2 u emitted stepped) continued

/-- A property that an invariant entails, where the invariant survives every guarded step and the
property no other, holds throughout a run exactly when the run was guarded. -/
theorem throughout_iff_along {guard : σ → α → Prop} {invariant property : σ → Prop}
    (holds : ∀ s, invariant s → property s)
    (kept : ∀ s a t emitted, invariant s → guard s a → m.step s a = some (t,emitted) → invariant t)
    (lost : ∀ s a t emitted, invariant s → m.step s a = some (t,emitted) → property t → guard s a)
    (start : invariant s) (ran : m.run s actions = some (t,history)) :
    m.Throughout property s actions ↔ m.Along guard s actions := by
  induction actions generalizing s history with
  | nil => exact iff_of_true (holds s start) trivial
  | cons a rest ih =>
    obtain ⟨u,emitted,later,stepped,continued,rfl⟩ := run_cons_iff.mp ran
    rw [throughout_cons stepped,along_cons stepped,and_iff_right (holds s start)]
    constructor
    · intro throughout
      have guarded := lost s a u emitted start stepped throughout.start
      exact ⟨guarded,(ih (kept s a u emitted start guarded stepped) continued).mp throughout⟩
    · rintro ⟨guarded,along⟩
      exact (ih (kept s a u emitted start guarded stepped) continued).mpr along

/-- A state that the run comes through. -/
def Visits (m : Machine σ α ε) (s : σ) (actions : List α) (u : σ) : Prop :=
  ∃ first second seen, actions = first ++ second ∧ m.run s first = some (u,seen)

theorem Visits.start : m.Visits s actions s := ⟨[],actions,[],rfl,rfl⟩

theorem visits_cons (stepped : m.step s a = some (t,emitted)) :
    m.Visits s (a :: rest) u ↔ u = s ∨ m.Visits t rest u := by
  constructor
  · rintro ⟨first,second,seen,split,ran⟩
    cases first with
    | nil =>
      obtain ⟨rfl,-⟩ := run_nil_iff.mp ran
      exact .inl rfl
    | cons b first =>
      cases split
      obtain ⟨v,now,later,taken,continued,-⟩ := run_cons_iff.mp ran
      cases Option.some.inj (stepped.symm.trans taken)
      exact .inr ⟨first,second,later,rfl,continued⟩
  · rintro (rfl | ⟨first,second,seen,rfl,ran⟩)
    · exact .start
    · exact ⟨a :: first,second,emitted ++ seen,rfl,run_cons_iff.mpr ⟨t,emitted,seen,stepped,ran,rfl⟩⟩

theorem run_mark {size mark : σ → Nat}
    (marked : ∀ s a t emitted, size s ≤ mark s → m.step s a = some (t,emitted) → mark t = max (mark s) (size t))
    (start : size s ≤ mark s) (ran : m.run s actions = some (t,history)) :
    mark s ≤ mark t ∧ (∀ u, m.Visits s actions u → size u ≤ mark t) ∧
      (mark t = mark s ∨ ∃ u, m.Visits s actions u ∧ size u = mark t) := by
  induction actions generalizing s history with
  | nil =>
    obtain ⟨rfl,rfl⟩ := run_nil_iff.mp ran
    refine ⟨Nat.le_refl _,?_,.inl rfl⟩
    rintro u ⟨first,second,seen,split,reached⟩
    obtain ⟨rfl,rfl⟩ := List.append_eq_nil_iff.mp split.symm
    obtain ⟨rfl,-⟩ := run_nil_iff.mp reached
    exact start
  | cons a rest ih =>
    obtain ⟨v,emitted,later,stepped,continued,rfl⟩ := run_cons_iff.mp ran
    have raised := marked _ _ _ _ start stepped
    obtain ⟨grown,below,reached⟩ := ih (by omega) continued
    refine ⟨by omega,?_,?_⟩
    · intro u visited
      rcases (visits_cons stepped).mp visited with rfl | visited
      · omega
      · exact below u visited
    · rcases reached with same | ⟨u,visited,top⟩
      · by_cases higher : mark s < size v
        · exact .inr ⟨v,(visits_cons stepped).mpr (.inr .start),by omega⟩
        · exact .inl (by omega)
      · exact .inr ⟨u,(visits_cons stepped).mpr (.inr visited),top⟩

/-- A mark that every step raises to the size it leads to, if need be, ends as the largest size
that the run came through. -/
theorem run_peak {size mark : σ → Nat}
    (marked : ∀ s a t emitted, size s ≤ mark s → m.step s a = some (t,emitted) → mark t = max (mark s) (size t))
    (start : size s = mark s) (ran : m.run s actions = some (t,history)) :
    (∀ u, m.Visits s actions u → size u ≤ mark t) ∧ ∃ u, m.Visits s actions u ∧ size u = mark t := by
  obtain ⟨-,below,same | reached⟩ := run_mark marked (Nat.le_of_eq start) ran
  · exact ⟨below,s,.start,start.trans same.symm⟩
  · exact ⟨below,reached⟩

/-- A property that a run gains is gained by one of its steps. -/
theorem run_gains (property : σ → Prop) (lacking : ¬property s) (ran : m.run s actions = some (t,history))
    (gained : property t) :
    ∃ earlier a later u past v emitted since, actions = earlier ++ a :: later ∧ m.run s earlier = some (u,past) ∧
      ¬property u ∧ m.step u a = some (v,emitted) ∧ property v ∧ m.run v later = some (t,since) ∧
      history = past ++ (emitted ++ since) := by
  induction actions generalizing s history with
  | nil =>
    obtain ⟨rfl,rfl⟩ := run_nil_iff.mp ran
    contradiction
  | cons a rest ih =>
    obtain ⟨next,emitted,later,stepped,continued,rfl⟩ := run_cons_iff.mp ran
    by_cases now : property next
    · exact ⟨[],a,rest,s,[],next,emitted,later,rfl,rfl,lacking,stepped,now,continued,rfl⟩
    · obtain ⟨earlier,b,behind,u,past,v,seen,since,rfl,before,still,turned,held,ended,rfl⟩ := ih now continued
      exact ⟨a :: earlier,b,behind,u,emitted ++ past,v,seen,since,rfl,
        run_cons_iff.mpr ⟨next,emitted,past,stepped,before,rfl⟩,still,turned,held,ended,
        (List.append_assoc emitted past (seen ++ since)).symm⟩

/-- An occurrence in an extended history is an old one, or lies in what was just emitted. -/
theorem history_split {history emitted before after : List ε} {event : ε}
    (split : history ++ emitted = before ++ event :: after) :
    (∃ between, history = before ++ event :: between ∧ after = between ++ emitted) ∨
    (∃ between, emitted = between ++ event :: after ∧ before = history ++ between) := by
  rcases List.append_eq_append_iff.mp split with ⟨between,rfl,tail⟩ | ⟨between,rfl,tail⟩
  · exact .inr ⟨between,tail,rfl⟩
  · cases between with
    | nil => exact .inr ⟨[],by simpa using tail.symm,by simp⟩
    | cons head between =>
      cases tail
      exact .inl ⟨between,rfl,rfl⟩

end Machine
