import AutoRuntime.Conversation

/-! A process whose peer may do anything. What it reads and writes until its end is given as a
whole, so that a program is followed read by read and write by write, however the pieces fall. -/
namespace Process

/-- The process can end with this value, having read and written these symbols, and this many of
its reads failed. A failed transfer may have moved something before. -/
inductive Yields : Process β ε α → List β → List β → Nat → α → Prop
  | done : Yields (done value) [] [] 0 value
  | write (rest : Yields (next (.ok ())) consumed sent lost value) :
    Yields (write first more next) consumed (first :: more ++ sent) lost value
  | writeFails (short : piece.length ≤ more.length) (part : piece <+: first :: more)
      (rest : Yields (next (.error failed)) consumed sent lost value) :
    Yields (write first more next) consumed (piece ++ sent) lost value
  | read (enough : chunk.length = more + 1) (rest : Yields (next (.ok (buffer ++ chunk))) consumed sent lost value) :
    Yields (read more buffer next) (chunk ++ consumed) sent lost value
  | readFails (short : piece.length ≤ more) (rest : Yields (next (.error failed)) consumed sent lost value) :
    Yields (read more buffer next) (piece ++ consumed) sent (lost + 1) value

namespace Yields

theorem of_done (yields : Yields (Process.done value : Process β ε α) consumed sent lost result) :
    consumed = [] ∧ sent = [] ∧ lost = 0 ∧ result = value := by
  cases yields with
  | done => exact ⟨rfl,rfl,rfl,rfl⟩

theorem of_writing (yields : Yields (writing symbols next) consumed sent lost value) :
    (∃ later, sent = symbols ++ later ∧ Yields (next (.ok ())) consumed later lost value) ∨
      ∃ piece later failed, sent = piece ++ later ∧ piece <+: symbols ∧ piece.length < symbols.length ∧
        Yields (next (.error failed)) consumed later lost value := by
  cases symbols with
  | nil => exact .inl ⟨sent,rfl,yields⟩
  | cons =>
    cases yields with
    | write rest => exact .inl ⟨_,rfl,rest⟩
    | writeFails short part rest => exact .inr ⟨_,_,_,rfl,part,Nat.lt_succ_of_le short,rest⟩

theorem of_reading (yields : Yields (reading size buffer next) consumed sent lost value) :
    (∃ chunk later, consumed = chunk ++ later ∧ chunk.length = size ∧
        Yields (next (.ok (buffer ++ chunk))) later sent lost value) ∨
      ∃ piece later failed fewer, consumed = piece ++ later ∧ piece.length < size ∧ lost = fewer + 1 ∧
        Yields (next (.error failed)) later sent fewer value := by
  cases size with
  | zero => exact .inl ⟨[],consumed,rfl,rfl,by rwa [List.append_nil]⟩
  | succ =>
    cases yields with
    | read enough rest => exact .inl ⟨_,_,rfl,enough,rest⟩
    | readFails short rest => exact .inr ⟨_,_,_,_,rfl,Nat.lt_succ_of_le short,rfl,rest⟩

theorem of_readExact (yields : Yields ((readExact size).run >>= next) consumed sent lost value) :
    (∃ chunk later, consumed = chunk ++ later ∧ chunk.length = size ∧
        Yields (next (.ok chunk)) later sent lost value) ∨
      ∃ piece later failed fewer, consumed = piece ++ later ∧ piece.length < size ∧ lost = fewer + 1 ∧
        Yields (next (.error failed)) later sent fewer value := by
  rw [readExact_bind] at yields
  exact yields.of_reading

theorem after_send {later : List β} (yields : Yields (writing later next) consumed sent lost value)
    (piece : List β) :
    Yields (writing (piece ++ later) next) consumed (piece ++ sent) lost value := by
  cases piece with
  | nil => exact yields
  | cons first more =>
    rcases yields.of_writing with ⟨rest,rfl,goes⟩ | ⟨part,rest,failed,rfl,isPart,short,goes⟩
    · rw [← List.append_assoc]
      exact .write goes
    · have shorter : (first :: more ++ part).length ≤ (more ++ later).length := by
        simp only [List.cons_append,List.length_cons,List.length_append]
        omega
      rw [← List.append_assoc]
      exact .writeFails shorter ((List.prefix_append_right_inj _).mpr isPart) goes

theorem after_receive {piece : List β} (fits : piece.length ≤ size)
    (yields : Yields (reading (size - piece.length) (buffer ++ piece) next) consumed sent lost value) :
    Yields (reading size buffer next) (piece ++ consumed) sent lost value := by
  cases size with
  | zero =>
    obtain rfl := List.eq_nil_of_length_eq_zero (Nat.le_zero.mp fits)
    simpa using yields
  | succ =>
    rcases yields.of_reading with ⟨chunk,rest,rfl,size,goes⟩ | ⟨part,rest,failed,fewer,rfl,short,rfl,goes⟩
    · rw [List.append_assoc] at goes
      rw [← List.append_assoc]
      exact .read (by rw [List.length_append]; omega) goes
    · rw [← List.append_assoc]
      exact .readFails (by rw [List.length_append]; omega) goes

theorem map (f : α → γ) (yields : Yields (p : Process β ε α) consumed sent lost value) :
    Yields (f <$> p) consumed sent lost (f value) := by
  induction yields with
  | done => exact .done
  | write _ ih => exact .write ih
  | writeFails short part _ ih => exact .writeFails short part ih
  | read enough _ ih => exact .read enough ih
  | readFails short _ ih => exact .readFails short ih

end Yields

/-- The program writes these symbols, all of them or a part and then fails. -/
def Writes (program : ExceptT ε (Process β ε) Unit) (symbols : List β) : Prop :=
  ∀ {α : Type} {next : Except ε Unit → Process β ε α} {consumed sent lost value},
    Yields (program.run >>= next) consumed sent lost value →
      (∃ later, sent = symbols ++ later ∧ Yields (next (.ok ())) consumed later lost value) ∨
        ∃ piece later failed, sent = piece ++ later ∧ piece <+: symbols ∧ piece.length < symbols.length ∧
          Yields (next (.error failed)) consumed later lost value

theorem writes_writeExact (symbols : List β) : Writes (writeExact symbols : ExceptT ε (Process β ε) Unit) symbols := by
  intro α next consumed sent lost value yields
  rw [writeExact_bind] at yields
  exact yields.of_writing

theorem Writes.seq {program following : ExceptT ε (Process β ε) Unit} {symbols more : List β}
    (writes : Writes program symbols) (follows : Writes following more) :
    Writes (do program; following) (symbols ++ more) := by
  intro α next consumed sent lost value yields
  simp only [ExceptT.run_bind,bind_assoc] at yields
  rcases writes yields with ⟨later,rfl,onward⟩ | ⟨piece,later,failed,rfl,part,short,ends⟩
  · rcases follows onward with ⟨later,rfl,ends⟩ | ⟨piece,later,failed,rfl,part,short,ends⟩
    · exact .inl ⟨later,(List.append_assoc ..).symm,ends⟩
    · refine .inr ⟨symbols ++ piece,later,failed,(List.append_assoc ..).symm,?_,?_,ends⟩
      · exact (List.prefix_append_right_inj _).mpr part
      · simp only [List.length_append]
        omega
  · refine .inr ⟨piece,later,failed,rfl,part.trans (List.prefix_append _ _),?_,ends⟩
    rw [List.length_append]
    omega

end Process
