import AutoRuntime.ReplayInterrupted

/-! A replayer and its owner. `Next`, `Replay` and `Reset` come one after the other on one file, and
`Next` may also come while a `Replay` is under way. A reset brings back the replayer as opened. -/
namespace AutoRuntime.Trace

/-- Where `Next` can run out of memory. -/
inductive Shortage where
  | allocate | materialize
  deriving DecidableEq, Repr

def Shortage.detail : Shortage → String
  | .allocate => "allocate trace record failed: "
  | .materialize => "materialize trace record failed: "

/-- `Next` without the memory for a record. The stream is left at what comes after. -/
def Replayer.exhaust (r : Replayer) (shortage : Shortage) (what : String) (rest : Bytes) :
    Option (Status × Replayer) :=
  if r.terminalError.isSome || r.eof || r.input.length < recordFixedBytes then none
  else
    let status : Status := ⟨.internal,shortage.detail ++ what⟩
    some (status,{ r with input := rest, terminalError := some status })

/-- What a replayer is as long as its file is the same. -/
structure SameFile (r other : Replayer) : Prop where
  limits : r.limits = other.limits
  file : r.file = other.file
  info : r.info = other.info

theorem SameFile.refl (r : Replayer) : SameFile r r := ⟨rfl,rfl,rfl⟩

theorem SameFile.trans (first : SameFile q r) (second : SameFile r s) : SameFile q s :=
  ⟨first.limits.trans second.limits,first.file.trans second.file,first.info.trans second.info⟩

theorem next_sameFile (r : Replayer) : SameFile r.next.2 r := by
  obtain ⟨limits,file,info⟩ := next_fixed r
  exact ⟨limits,file,info⟩

theorem exhaust_sameFile {r : Replayer} (exhausted : r.exhaust shortage what rest = some (status,left)) :
    SameFile left r := by
  simp only [Replayer.exhaust] at exhausted
  split at exhausted
  · contradiction
  · cases exhausted
    exact ⟨rfl,rfl,rfl⟩

theorem openAndReadHeader_rest (read : openAndReadHeader file = .ok (info,rest)) :
    rest = file.drop fileHeaderBytes := by
  simp only [openAndReadHeader] at read
  split at read
  next header later found =>
    have split_ : later = file.drop fileHeaderBytes := by
      simp only [readExact] at found
      repeat' split at found
      all_goals first
        | contradiction
        | exact (StreamRead.ok.inj found).2.symm
    repeat' split at read
    all_goals first
      | contradiction
      | (cases read
         exact split_)
  · contradiction

theorem reset_opened {r fresh : Replayer} (opened : Replayer.open path content limits = .ok fresh)
    (same : SameFile r fresh) : r.reset = (.success,fresh) := by
  simp only [Replayer.open] at opened
  repeat' split at opened
  all_goals first
    | contradiction
    | skip
  next file info input read =>
    cases opened
    obtain rfl := openAndReadHeader_rest read
    simp only [Replayer.reset,same.limits,same.file,same.info]

namespace Replaying

variable {quotient : UInt64 → Rat → Rat} {s t : System}

/-- What the owner does. A `Replay` goes on stage by stage. -/
inductive Call where
  | next
  | exhaust (shortage : Shortage) (what : String) (rest : Bytes)
  | stage (action : Action)
  | reset

inductive Answer where
  | next (answer : Result (Option TraceRecord))
  | replay (event : Event)
  | reset (status : Status)

/-- A `Replay` that was about to read returns the error. Otherwise it was the owner who asked. -/
def System.exhaust (s : System) (shortage : Shortage) (what : String) (rest : Bytes) :
    Option (System × List Answer) :=
  match s.replayer.exhaust shortage what rest with
  | none => none
  | some (status,left) =>
    match s.phase with
    | .reading _ => some ({ s with replayer := left, phase := .idle },[.replay (.returned status none)])
    | _ => some ({ s with replayer := left },[.next (.error status)])

/-- Both halves of the statistics start again. -/
def System.reset (s : System) : System × List Answer :=
  ({ s with replayer := s.replayer.reset.2, delivery := {} },[.reset s.replayer.reset.1])

def sessionStep (quotient : UInt64 → Rat → Rat) (s : System) : Call → Option (System × List Answer)
  | .next => some ({ s with replayer := s.replayer.next.2 },[.next s.replayer.next.1])
  | .exhaust shortage what rest => s.exhaust shortage what rest
  | .stage action => (step quotient s action).map fun (t,seen) => (t,seen.map .replay)
  | .reset => some s.reset

def session (quotient : UInt64 → Rat → Rat) : Machine System Call Answer := ⟨sessionStep quotient⟩

theorem Took.sameFile (took : Took s action t seen) : SameFile t.replayer s.replayer := by
  cases took with
  | rejected | began | stopped | waits | interrupted | due | refused | answered => exact .refl s.replayer
  | failed | ended | delivered | unscheduled | scheduled => exact next_sameFile s.replayer

theorem exhaust_keeps_file (exhausted : s.exhaust shortage what rest = some (t,seen)) :
    SameFile t.replayer s.replayer := by
  simp only [System.exhaust] at exhausted
  split at exhausted
  · contradiction
  next status left found =>
    have same := exhaust_sameFile found
    split at exhausted <;> cases exhausted <;> exact same

theorem sessionStep_sameFile (stepped : sessionStep quotient s call = some (t,seen)) :
    SameFile t.replayer s.replayer := by
  cases call with
  | next =>
    cases stepped
    exact next_sameFile s.replayer
  | exhaust => exact exhaust_keeps_file stepped
  | stage =>
    obtain ⟨⟨u,events⟩,moved,result⟩ := Option.map_eq_some_iff.mp stepped
    cases result
    exact (step_took moved).sameFile
  | reset =>
    cases stepped
    exact ⟨rfl,rfl,rfl⟩

theorem run_sameFile (ran : (session quotient).run s calls = some (t,history)) : SameFile t.replayer s.replayer :=
  Machine.run_invariant (m := session quotient) (motive := fun t _ => SameFile t.replayer s.replayer)
    (fun _ _ _ _ _ same stepped => (sessionStep_sameFile stepped).trans same) (.refl s.replayer) ran

/-- Whatever was read, replayed, cancelled or found damaged: once no `Replay` is under way, a reset
gives the replayer that was opened, with all its counters at zero. It goes on like that one. -/
theorem reset_starts_over (opened : Replayer.open path content limits = .ok fresh)
    (ran : (session quotient).run { replayer := fresh } calls = some (s,history)) (idle : s.phase = .idle) :
    (session quotient).step s .reset = some ({ replayer := fresh },[.reset .success]) ∧
    (∀ count, s.replayer.reset.2.nexts count = fresh.nexts count) ∧
    ∀ further, (session quotient).run s.reset.1 further = (session quotient).run { replayer := fresh } further := by
  have again := reset_opened opened (run_sameFile ran)
  have reset : s.reset = ({ replayer := fresh },[.reset .success]) := by
    simp only [System.reset,again,idle]
  refine ⟨?_,fun count => ?_,fun further => ?_⟩
  · simp only [session,sessionStep,reset]
  · rw [again]
  · rw [reset]

/-- One record is read, the replay of the other one is cancelled, and the callback is missing. -/
def sampleSession : List Call :=
  [.next,.stage (.replay {} true 0),.stage (.read true),.stage (.replay {} false 0)]

theorem reset_starts_over_sample : ∃ fresh s history,
    Replayer.open [116] (some (buildFileHeader 7 100 ++ sampleTrace.flatMap PendingRecord.image)) {} = .ok fresh ∧
    (session exactQuotient).run { replayer := fresh } sampleSession = some (s,history) ∧
    (session exactQuotient).step s .reset = some ({ replayer := fresh },[.reset .success]) := by
  obtain ⟨fresh,opened,-⟩ := sampleTrace_reads
  obtain ⟨s,history,ran,idle⟩ : ∃ s history,
      (session exactQuotient).run { replayer := fresh } sampleSession = some (s,history) ∧ s.phase = .idle :=
    ⟨_,_,rfl,rfl⟩
  exact ⟨fresh,s,history,opened,ran,(reset_starts_over opened ran idle).1⟩

end Replaying

end AutoRuntime.Trace
