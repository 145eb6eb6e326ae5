import AutoRuntime.Message
import AutoRuntime.Status
import Mathlib.Data.List.Nodup

/-! The spans that `TraceRecorder` keeps, and the order in which it shows them. -/
namespace AutoRuntime.TraceRecorder

open List

structure TraceSpan where
  traceId : UInt64
  spanId : UInt64
  parentSpanId : UInt64
  generation : UInt64
  component : Bytes
  operation : Bytes
  startMonotonicNs : UInt64
  finishMonotonicNs : UInt64
  status : StatusCode
  deriving DecidableEq, Repr

namespace TraceSpan

def valid (span : TraceSpan) : Bool :=
  !(span.traceId == 0 || span.spanId == 0 || span.component.isEmpty || span.operation.isEmpty ||
    span.finishMonotonicNs < span.startMonotonicNs)

/-- What makes a span a duplicate. -/
def key (span : TraceSpan) : UInt64 × UInt64 := (span.traceId,span.spanId)

/-- The comparison that `Snapshot` sorts by. -/
def before (left right : TraceSpan) : Bool :=
  if left.traceId != right.traceId then left.traceId < right.traceId
  else if left.startMonotonicNs != right.startMonotonicNs then left.startMonotonicNs < right.startMonotonicNs
  else left.spanId < right.spanId

end TraceSpan

def record (spans : List TraceSpan) (span : TraceSpan) : List TraceSpan × Status :=
  if !span.valid then (spans,⟨.invalidArgument,"invalid trace span"⟩)
  else if spans.any (·.key == span.key) then (spans,⟨.alreadyExists,"trace span already exists"⟩)
  else (spans ++ [span],.success)

/-- What is kept after these calls of `Record`. -/
def recorded (spans calls : List TraceSpan) : List TraceSpan :=
  calls.foldl (fun spans span => (record spans span).1) spans

def shown (traceId : UInt64) (spans : List TraceSpan) : List TraceSpan :=
  spans.filter fun span => traceId == 0 || span.traceId == traceId

def snapshot (spans : List TraceSpan) (traceId : UInt64) : List TraceSpan :=
  (shown traceId spans).mergeSort fun left right => !right.before left

theorem record_find (number : UInt64 × UInt64) (spans : List TraceSpan) (call : TraceSpan) :
    (record spans call).1.find? (·.key == number) =
      (spans.find? (·.key == number)).or (if call.valid && call.key == number then some call else none) := by
  rw [record]
  split
  next invalid => simp_all
  · split
    next duplicate =>
      by_cases own : call.key = number
      · subst own
        rw [Option.or_of_isSome (by simpa using duplicate)]
      · simp [own]
    · simp_all [find?_append,find?_singleton]

theorem recorded_find (number : UInt64 × UInt64) (spans calls : List TraceSpan) :
    (recorded spans calls).find? (·.key == number) =
      (spans.find? (·.key == number)).or (calls.find? fun call => call.valid && call.key == number) := by
  induction calls generalizing spans with
  | nil => simp [recorded]
  | cons call rest ih =>
    refine (ih (record spans call).1).trans ?_
    rw [record_find,Option.or_assoc,find?_cons]
    cases call.valid && call.key == number <;> rfl

theorem recorded_nodup (calls : List TraceSpan) : ((recorded [] calls).map TraceSpan.key).Nodup := by
  refine foldlRecOn calls _ (motive := fun spans : List TraceSpan => (spans.map TraceSpan.key).Nodup)
    nodup_nil ?_
  intro spans distinct span _
  rw [record]
  split
  · exact distinct
  · split
    · exact distinct
    next fresh =>
      simp only [any_eq_true,beq_iff_eq,not_exists,not_and] at fresh
      refine map_append ▸ nodup_append.mpr ⟨distinct,nodup_singleton _,?_⟩
      simpa using fresh

/-- A snapshot holds the first valid span of each key, and however the sort goes about it, in one order. -/
theorem snapshot_canonical (calls : List TraceSpan) (traceId : UInt64) :
    (∀ span, span ∈ snapshot (recorded [] calls) traceId ↔ (traceId = 0 ∨ span.traceId = traceId) ∧
      calls.find? (fun call => call.valid && call.key == span.key) = some span) ∧
    ∀ sorted, sorted.Perm (shown traceId (recorded [] calls)) ∧
      sorted.Pairwise (fun left right => right.before left = false) ↔
        sorted = snapshot (recorded [] calls) traceId := by
  have same {one two : TraceSpan} (first : one ∈ recorded [] calls) (second : two ∈ recorded [] calls)
      (keys : one.key = two.key) : one = two :=
    inj_on_of_nodup_map (recorded_nodup calls) first second keys
  constructor
  · intro span
    have found := recorded_find span.key [] calls
    simp only [find?_nil,Option.none_or] at found
    rw [snapshot,mem_mergeSort,shown,mem_filter,← found,and_comm]
    refine and_congr (by simp) ⟨fun member => ?_,mem_of_find?_eq_some⟩
    obtain ⟨first,at_⟩ : ∃ first, (recorded [] calls).find? (·.key == span.key) = some first :=
      Option.isSome_iff_exists.mp (find?_isSome.mpr ⟨span,member,beq_self_eq_true _⟩)
    rw [at_,same (mem_of_find?_eq_some at_) member (by simpa using find?_some at_)]
  · have perm : (snapshot (recorded [] calls) traceId).Perm (shown traceId (recorded [] calls)) :=
      mergeSort_perm _ _
    have ordered : (snapshot (recorded [] calls) traceId).Pairwise fun left right => right.before left = false := by
      refine (pairwise_mergeSort ?_ ?_ _).imp (by simp)
      · grind [TraceSpan.before]
      · grind [TraceSpan.before]
    refine fun sorted => ⟨fun ⟨alike,up⟩ => ?_,by rintro rfl; exact ⟨perm,ordered⟩⟩
    refine (alike.trans perm.symm).eq_of_pairwise ?_ up ordered
    intro one two first second _ _
    refine same (mem_of_mem_filter (alike.mem_iff.mp first)) (mem_of_mem_filter (perm.mem_iff.mp second)) ?_
    grind [TraceSpan.key,TraceSpan.before]

end AutoRuntime.TraceRecorder
