import AutoRuntime.RecordReplay

/-! A trace file cut off anywhere. The replayer hands out the records that are whole, and then it
says whether the cut fell between two records or inside one. -/
namespace AutoRuntime.Trace

open List

/-- A prefix of a list of pieces ends between two of them or inside one. -/
theorem prefix_flatMap {image : α → List β} {pieces : List α} (shorter : cut <+: pieces.flatMap image) :
    ∃ (whole rest : List α) (torn : List β), pieces = whole ++ rest ∧ cut = whole.flatMap image ++ torn ∧
      (torn = [] ∨ ∃ piece ∈ rest.head?, torn <+: image piece ∧ torn.length < (image piece).length) := by
  induction pieces generalizing cut with
  | nil => exact ⟨[],[],cut,rfl,rfl,.inl (prefix_nil.mp shorter)⟩
  | cons piece pieces ih =>
    rw [flatMap_cons] at shorter
    rcases Nat.lt_or_ge cut.length (image piece).length with inside | past
    · have torn := prefix_of_prefix_length_le shorter (prefix_append _ _) inside.le
      exact ⟨[],piece :: pieces,cut,rfl,rfl,.inr ⟨piece,rfl,torn,inside⟩⟩
    · obtain ⟨more,rfl⟩ := prefix_of_prefix_length_le (prefix_append _ _) shorter past
      obtain ⟨whole,rest,torn,rfl,rfl,ended⟩ := ih ((prefix_append_right_inj _).mp shorter)
      exact ⟨piece :: whole,rest,torn,rfl,by rw [flatMap_cons,append_assoc],ended⟩

theorem nexts_failed {r : Replayer} (failed : r.terminalError = some status) :
    r.nexts extra = List.replicate extra (.error status) := by
  have answer : r.next = (.error status,r) := by simp [Replayer.next,failed]
  induction extra with
  | zero => rfl
  | succ extra ih => rw [Replayer.nexts,answer,ih,replicate_succ]

/-- What the replayer says of a record that is cut off. -/
def truncations : List Status :=
  [traceError "trace record header is truncated",traceError "trace record body is truncated"]

theorem next_torn {r : Replayer} {record : PendingRecord} (encodable : r.limits.Encodable)
    (live : r.terminalError = none) (more : r.eof = false) (fits : record.Fits r.limits)
    (some_ : r.input ≠ []) (part : r.input <+: record.image) (short : r.input.length < record.size) :
    ∃ status ∈ truncations, r.next.1 = .error status ∧ r.next.2.terminalError = some status := by
  rcases Nat.lt_or_ge r.input.length recordFixedBytes with early | late
  · have read : readExact r.input recordFixedBytes true = .truncated := by
      have filled : r.input.isEmpty = false := by simpa using some_
      rw [readExact,if_neg (by decide),if_neg (by omega),filled]
      rfl
    refine ⟨traceError "trace record header is truncated",by simp [truncations],?_⟩
    simp [Replayer.next,live,more,read,Replayer.fail]
  · rw [← record.fixedPart_variablePart] at part
    have front : fixedPart record record.size <+: r.input :=
      prefix_of_prefix_length_le (prefix_append _ _) part (by rw [fixedPart_length]; exact late)
    obtain ⟨rest,input⟩ := front
    have read : readExact r.input recordFixedBytes true = .ok (fixedPart record record.size) rest := by
      rw [← input]
      exact readExact_append (fixedPart_length record record.size) (by decide)
    have body : readExact rest (record.size - recordFixedBytes) false = .truncated := by
      have lengths := congrArg length input
      rw [length_append,fixedPart_length] at lengths
      have positive := record.variablePart_pos
      rw [readExact,if_neg (by omega),if_neg (by omega)]
      rfl
    refine ⟨traceError "trace record body is truncated",by simp [truncations],?_⟩
    have total := PendingRecord.head_total fits encodable
    simp [Replayer.next,live,more,read,readRecord,readHead_fixedPart,checkHead_head fits encodable,total,body,
      Replayer.fail]

theorem openAndReadHeader_short (short : file.length < fileHeaderBytes) :
    openAndReadHeader file = .error (traceError "trace header is truncated") := by
  have read : readExact file fileHeaderBytes false = .truncated := by
    rw [readExact,if_neg (by decide),if_neg (by omega)]
    rfl
  rw [openAndReadHeader,read]

theorem Consecutive.left (consecutive : Consecutive first offset (records ++ others) following last) :
    ∃ following last, Consecutive first offset records following last := by
  induction records generalizing first offset with
  | nil => exact ⟨first,offset,.nil⟩
  | cons record records ih =>
    cases consecutive with
    | cons later rest =>
      obtain ⟨following,last,front⟩ := ih rest
      exact ⟨following,last,.cons later front⟩

theorem next_fixed (r : Replayer) :
    r.next.2.limits = r.limits ∧ r.next.2.file = r.file ∧ r.next.2.info = r.info := by
  simp only [Replayer.next]
  split
  · exact ⟨rfl,rfl,rfl⟩
  · split
    · exact ⟨rfl,rfl,rfl⟩
    · split
      · exact ⟨rfl,rfl,rfl⟩
      · exact ⟨rfl,rfl,rfl⟩
      · split <;> exact ⟨rfl,rfl,rfl⟩

theorem reset_nexts (r : Replayer) (count : Nat) :
    ((fun r : Replayer => r.next.2)^[count] r).reset = r.reset := by
  induction count generalizing r with
  | zero => rfl
  | succ count ih =>
    obtain ⟨limits,file,info⟩ := next_fixed r
    rw [Function.iterate_succ_apply,ih]
    simp only [Replayer.reset,limits,file,info]

/-- What a replayer makes of a file that begins with these records and then has this torn piece:
the records, and then the same answer for good. Any `Reset` starts over. -/
structure Replays (replayer : Replayer) (whole : List PendingRecord) (torn : Bytes) : Prop where
  answers : ∃ ending, (torn = [] → ending = .ok none) ∧
    (torn ≠ [] → ∃ status ∈ truncations, ending = .error status) ∧
    ∀ extra, replayer.nexts (whole.length + extra) =
      whole.map (fun record => .ok (some record.replayed)) ++ List.replicate extra ending
  resets : ∀ count, ((fun r : Replayer => r.next.2)^[count] replayer).reset = (.success,replayer)

theorem buildFileHeader_length (wall monotonic : UInt64) :
    (buildFileHeader wall monotonic).length = fileHeaderBytes := by
  simp only [buildFileHeader,length_append,headerBody_length,appendU32_length]
  rfl

theorem opened_replays (wall monotonic : UInt64) (valid : (validateLimits limits).ok = true)
    (fits : ∀ record ∈ whole ++ rest, record.Fits limits) (consecutive : Consecutive 1 0 whole following last)
    (ended : torn = [] ∨ ∃ record ∈ rest.head?, torn <+: record.image ∧ torn.length < record.image.length) :
    Replays {
      limits := limits
      file := buildFileHeader wall monotonic ++ (whole.flatMap PendingRecord.image ++ torn)
      input := whole.flatMap PendingRecord.image ++ torn
      info := ⟨traceFormatVersion,wall,monotonic⟩ } whole torn := by
  have encodable := valid_encodable valid
  refine ⟨?_,fun count => ?_⟩
  · obtain ⟨t,limited,live,more,input,read⟩ := nexts_images_append (r := {
      limits := limits
      file := buildFileHeader wall monotonic ++ (whole.flatMap PendingRecord.image ++ torn)
      input := whole.flatMap PendingRecord.image ++ torn
      info := ⟨traceFormatVersion,wall,monotonic⟩ }) encodable rfl rfl rfl
      (fun record listed => fits record (mem_append_left _ listed)) consecutive
    by_cases clean : torn = []
    · refine ⟨.ok none,fun _ => rfl,fun cut => absurd clean cut,fun extra => ?_⟩
      rw [read,nexts_end live (.inr (input.trans clean))]
    · obtain ⟨record,first,part,short⟩ := ended.resolve_left clean
      have listed : record ∈ whole ++ rest := mem_append_right _ (mem_of_mem_head? first)
      rw [record.image_length] at short
      have fitting : record.Fits t.limits := limited ▸ fits record listed
      obtain ⟨status,known,answer,failed⟩ := next_torn (limited ▸ encodable) live more fitting
        (input ▸ clean) (input ▸ part) (input ▸ short)
      refine ⟨.error status,fun empty => absurd empty clean,fun _ => ⟨status,known,rfl⟩,fun extra => ?_⟩
      rw [read]
      cases extra with
      | zero => rfl
      | succ => rw [Replayer.nexts,answer,nexts_failed failed,replicate_succ]
  · rw [reset_nexts]
    simp only [Replayer.reset,drop_left' (buildFileHeader_length wall monotonic)]

namespace Recording

/-- A file that a recorder wrote, cut off anywhere: without a whole header it is not opened,
otherwise exactly the records that are whole are replayed, and then the end of the file or, if the
cut fell inside a record, a truncation. -/
theorem crash_replayed (created : Recorder.create config wall monotonic creation = .ok r)
    (ran : system.run { recorder := r } actions = some (s,history)) (intact : Intact s)
    (valid : (validateLimits limits).ok = true) (within : config.limits.Within limits) :
    ∃ written : List PendingRecord, written.map PendingRecord.input <+: accepted history ∧
      (∀ record ∈ written, serializeRecord record = .ok record.image) ∧
      s.recorder.file = buildFileHeader wall monotonic ++ written.flatMap PendingRecord.image ∧
      ∀ cut, cut <+: s.recorder.file →
        (cut.length < fileHeaderBytes → Replayer.open config.path (some cut) limits =
          .error (traceError "trace header is truncated")) ∧
        (fileHeaderBytes ≤ cut.length → ∃ replayer whole rest torn,
          Replayer.open config.path (some cut) limits = .ok replayer ∧ written = whole ++ rest ∧
          cut = buildFileHeader wall monotonic ++ (whole.flatMap PendingRecord.image ++ torn) ∧
          (torn = [] ∨ ∃ record ∈ rest.head?, torn <+: record.image ∧ torn.length < record.image.length) ∧
          Replays replayer whole torn) := by
  have made := create_created created
  obtain ⟨rfl,rfl,rfl,written,traced⟩ := run_traced made ran intact
  have encodable := valid_encodable made.valid
  have fits {record : PendingRecord} (listed : record ∈ written) : record.Fits s.recorder.config.limits :=
    traced.fits record (mem_append_left _ listed)
  refine ⟨written,?_,fun record listed => serializeRecord_image (fits listed) encodable,traced.file,?_⟩
  · rw [← traced.contents,map_append]
    exact prefix_append _ _
  intro cut shorter
  constructor
  · intro short
    simp [Replayer.open,made.named,valid,openAndReadHeader_short short]
  · intro long
    rw [traced.file] at shorter
    obtain ⟨tail,rfl⟩ := prefix_of_prefix_length_le (prefix_append _ _) shorter
      ((buildFileHeader_length _ _).le.trans long)
    obtain ⟨whole,rest,torn,rfl,rfl,ended⟩ := prefix_flatMap ((prefix_append_right_inj _).mp shorter)
    have consecutive := traced.consecutive
    rw [append_assoc] at consecutive
    obtain ⟨following,last,front⟩ := consecutive.left
    refine ⟨_,whole,rest,torn,?_,rfl,rfl,ended,
      opened_replays s.recorder.wallClockStartNs s.recorder.monotonicStartNs valid
        (fun record listed => (fits listed).widen within) front ended⟩
    simp [Replayer.open,made.named,valid,openAndReadHeader_append]

set_option maxRecDepth 4000

/-- The cut falls into the second of two records. -/
theorem crash_replayed_sample : ∃ r s history cut replayer whole torn,
    Recorder.create sampleConfig 7 100 .created = .ok r ∧
      system.run { recorder := r } sampleSchedule = some (s,history) ∧ Intact s ∧
      cut <+: s.recorder.file ∧ cut.length = 200 ∧
      Replayer.open [116] (some cut) {} = .ok replayer ∧ Replays replayer whole torn := by
  obtain ⟨r,created⟩ : ∃ r, Recorder.create sampleConfig 7 100 .created = .ok r := ⟨_,rfl⟩
  obtain ⟨s,history,ran,status,phase,length⟩ : ∃ s history,
      system.run { recorder := r } sampleSchedule = some (s,history) ∧
      s.recorder.writerStatus.ok = true ∧ s.writer = .finished ∧ s.recorder.file.length = 280 := by
    cases created
    exact ⟨_,_,rfl,rfl,rfl,rfl⟩
  have valid : (validateLimits {}).ok = true := rfl
  have intact : Intact s := ⟨status,by simp [phase]⟩
  obtain ⟨written,-,-,-,cuts⟩ := crash_replayed created ran intact valid
    ⟨le_refl _,le_refl _,le_refl _⟩
  have long : (s.recorder.file.take 200).length = 200 := by rw [length_take,length]; rfl
  obtain ⟨replayer,whole,rest,torn,opened,-,-,-,replays⟩ :=
    (cuts (s.recorder.file.take 200) (List.take_prefix 200 s.recorder.file)).2 (by rw [long]; decide)
  exact ⟨r,s,history,_,replayer,whole,torn,created,ran,intact,List.take_prefix 200 s.recorder.file,long,opened,
    replays⟩

end Recording

end AutoRuntime.Trace
