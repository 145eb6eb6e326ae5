import Mathlib.Data.List.Basic

/-! Two sequential processes at the ends of a pair of streams. A process writes all the symbols
it wants to or reads as many as it asks for, in pieces of any size, and is then told how that
went. A pair that can converse to its end ends the same way however the pieces fall. -/
inductive Process (β ε α : Type) where
  | done (value : α)
  | write (first : β) (rest : List β) (next : Except ε Unit → Process β ε α)
  | read (more : Nat) (buffer : List β) (next : Except ε (List β) → Process β ε α)

namespace Process

def bind : Process β ε α → (α → Process β ε γ) → Process β ε γ
  | done value, f => f value
  | write first rest next, f => write first rest fun status => (next status).bind f
  | read more buffer next, f => read more buffer fun result => (next result).bind f

instance : Monad (Process β ε) where
  pure := done
  bind := bind

theorem bind_done (p : Process β ε α) : p.bind done = p := by
  induction p with
  | done => rfl
  | write first rest next ih | read more buffer next ih => simp only [bind,ih]

theorem bind_bind (p : Process β ε α) (f : α → Process β ε γ) (g : γ → Process β ε δ) :
    (p.bind f).bind g = p.bind fun value => (f value).bind g := by
  induction p with
  | done => rfl
  | write first rest next ih | read more buffer next ih => simp only [bind,ih]

instance : LawfulMonad (Process β ε) :=
  LawfulMonad.mk' _ bind_done (fun _ _ => rfl) bind_bind

/-- Nothing is left to do for no symbols. -/
def writing : List β → (Except ε Unit → Process β ε α) → Process β ε α
  | [], next => next (.ok ())
  | first :: rest, next => write first rest next

def reading : Nat → List β → (Except ε (List β) → Process β ε α) → Process β ε α
  | 0, buffer, next => next (.ok buffer)
  | more + 1, buffer, next => read more buffer next

def writeExact (symbols : List β) : ExceptT ε (Process β ε) Unit := ExceptT.mk (writing symbols done)

def readExact (size : Nat) : ExceptT ε (Process β ε) (List β) := ExceptT.mk (reading size [] done)

/-- It has something to write, or something to read is there. -/
inductive Movable : Process β ε α → List β → Prop
  | write : Movable (write first more next) inbound
  | read : Movable (read more buffer next) (symbol :: inbound)

def isDone : Process β ε α → Bool
  | done _ => true
  | _ => false

theorem eq_done {p : Process β ε α} (ended : p.isDone = true) : ∃ value, p = done value := by
  cases p with
  | done value => exact ⟨value,rfl⟩
  | write | read => simp [isDone] at ended

theorem writeExact_bind (symbols : List β) (next : Except ε Unit → Process β ε α) :
    (writeExact symbols).run >>= next = writing symbols next := by
  cases symbols <;> rfl

theorem readExact_bind (size : Nat) (next : Except ε (List β) → Process β ε α) :
    (readExact size).run >>= next = reading size [] next := by
  cases size <;> rfl

end Process

open Process

/-- The two processes, with what is under way to the right and to the left, can go on to their
ends with these values, with this many symbols to be written and read until then and none
left over. -/
inductive Converses : Process β ε α → Process β ε γ → List β → List β → α → γ → Nat → Prop
  | finished : Converses (done a) (done b) [] [] a b 0
  | leftWrites (rest : Converses (next (.ok ())) right (toRight ++ first :: more) toLeft a b n) :
    Converses (write first more next) right toRight toLeft a b (n + (more.length + 1))
  | leftReads (enough : chunk.length = more + 1)
      (rest : Converses (next (.ok (buffer ++ chunk))) right toRight toLeft a b n) :
    Converses (read more buffer next) right toRight (chunk ++ toLeft) a b (n + (more + 1))
  | rightWrites (rest : Converses left (next (.ok ())) toRight (toLeft ++ first :: more) a b n) :
    Converses left (write first more next) toRight toLeft a b (n + (more.length + 1))
  | rightReads (enough : chunk.length = more + 1)
      (rest : Converses left (next (.ok (buffer ++ chunk))) toRight toLeft a b n) :
    Converses left (read more buffer next) (chunk ++ toRight) toLeft a b (n + (more + 1))

namespace Converses

theorem swap (talk : Converses left right toRight toLeft a b n) :
    Converses right left toLeft toRight b a n := by
  induction talk with
  | finished => exact .finished
  | leftWrites _ ih => exact .rightWrites ih
  | leftReads enough _ ih => exact .rightReads enough ih
  | rightWrites _ ih => exact .leftWrites ih
  | rightReads enough _ ih => exact .leftReads enough ih

theorem write_left (rest : Converses (next (.ok ())) right (toRight ++ symbols) toLeft a b n) :
    Converses (writing symbols next) right toRight toLeft a b (n + symbols.length) := by
  cases symbols with
  | nil => simpa [writing] using rest
  | cons => exact .leftWrites rest

theorem read_left (rest : Converses (next (.ok (buffer ++ chunk))) right toRight toLeft a b n) :
    Converses (reading chunk.length buffer next) right toRight (chunk ++ toLeft) a b (n + chunk.length) := by
  cases chunk with
  | nil => simpa [reading] using rest
  | cons => exact .leftReads rfl rest

theorem ended_left (talk : Converses left right toRight toLeft a b n) (ended : left = done value) :
    value = a ∧ toLeft = [] := by
  induction talk with
  | finished => exact ⟨(Process.done.inj ended).symm,rfl⟩
  | leftWrites | leftReads => cases ended
  | rightWrites _ ih => simpa using (ih ended).2
  | rightReads _ _ ih => exact ih ended

theorem sends_left (talk : Converses left right toRight toLeft a b n)
    (writes : left = writing (piece ++ later) next) (nonempty : piece ≠ []) :
    ∃ m, n = m + piece.length ∧ Converses (writing later next) right (toRight ++ piece) toLeft a b m := by
  obtain ⟨first,more,rfl⟩ := List.exists_cons_of_ne_nil nonempty
  simp only [List.cons_append] at writes
  induction talk with
  | finished | leftReads => cases writes
  | leftWrites rest _ =>
    cases writes
    rw [← List.cons_append,← List.append_assoc] at rest
    refine ⟨_,?_,write_left rest⟩
    simp only [List.length_append,List.length_cons]
    omega
  | rightWrites _ ih =>
    obtain ⟨m,rfl,talk⟩ := ih writes
    exact ⟨_,by omega,.rightWrites talk⟩
  | rightReads enough _ ih =>
    obtain ⟨m,rfl,talk⟩ := ih writes
    rw [List.append_assoc]
    exact ⟨_,by omega,.rightReads enough talk⟩

theorem receives_left (talk : Converses left right toRight toLeft a b n)
    (reads : left = reading size buffer next) (arrives : toLeft = piece ++ later) (nonempty : piece ≠ [])
    (fits : piece.length ≤ size) :
    ∃ m, n = m + piece.length ∧
      Converses (reading (size - piece.length) (buffer ++ piece) next) right toRight later a b m := by
  obtain ⟨more,rfl⟩ : ∃ more, size = more + 1 :=
    Nat.exists_eq_add_one.mpr (Nat.lt_of_lt_of_le (List.length_pos_of_ne_nil nonempty) fits)
  induction talk generalizing later with
  | finished | leftWrites => cases reads
  | leftReads enough rest _ =>
    cases reads
    -- the piece is the front of what the whole read takes
    obtain ⟨tail,rfl⟩ : piece <+: _ :=
      List.prefix_of_prefix_length_le ⟨later,arrives.symm⟩ ⟨_,rfl⟩ (by omega)
    rw [List.append_assoc] at arrives
    obtain rfl := List.append_cancel_left arrives
    rw [List.length_append] at enough
    have left : more + 1 - piece.length = tail.length := by omega
    rw [← List.append_assoc] at rest
    rw [left]
    exact ⟨_,by omega,read_left rest⟩
  | rightWrites _ ih =>
    obtain ⟨m,rfl,talk⟩ := ih (by rw [arrives,List.append_assoc]) reads
    exact ⟨_,by omega,.rightWrites talk⟩
  | rightReads enough _ ih =>
    obtain ⟨m,rfl,talk⟩ := ih arrives reads
    exact ⟨_,by omega,.rightReads enough talk⟩

theorem not_write_done (talk : Converses left right toRight toLeft a b n)
    (writes : left = write first more next) (ended : right = done value) : False := by
  induction talk with
  | finished | leftReads => cases writes
  | leftWrites rest =>
    have unread := (rest.swap.ended_left ended).2
    simp at unread
  | rightWrites | rightReads => cases ended

theorem not_read_done (talk : Converses left right toRight toLeft a b n)
    (reads : left = read more buffer next) (ended : right = done value) (drained : toLeft = []) : False := by
  induction talk with
  | finished | leftWrites => cases reads
  | leftReads =>
    have nothing := congrArg List.length drained
    simp only [List.length_append,List.length_nil] at nothing
    omega
  | rightWrites | rightReads => cases ended

/-- With something left to do, one of the two can move on. -/
theorem movable (talk : Converses left right toRight toLeft a b n) (unfinished : n ≠ 0) :
    Movable left toLeft ∨ Movable right toRight := by
  cases talk with
  | finished => exact absurd rfl unfinished
  | leftWrites => exact .inl .write
  | leftReads enough =>
    obtain ⟨symbol,rest,rfl⟩ := List.exists_cons_of_length_eq_add_one enough
    exact .inl .read
  | rightWrites => exact .inr .write
  | rightReads enough =>
    obtain ⟨symbol,rest,rfl⟩ := List.exists_cons_of_length_eq_add_one enough
    exact .inr .read

theorem ended (talk : Converses left right toRight toLeft a b 0) : left = done a ∧ right = done b := by
  cases talk with
  | finished => exact ⟨rfl,rfl⟩

end Converses

/-- The two come to these values in some number of steps. The rules follow the programs. -/
def Concludes (left : Process β ε α) (right : Process β ε γ) (toRight toLeft : List β) (a : α) (b : γ) : Prop :=
  ∃ n, Converses left right toRight toLeft a b n

namespace Concludes

theorem finished : Concludes (done a : Process β ε α) (done b : Process β ε γ) [] [] a b := ⟨0,.finished⟩

theorem swap (talk : Concludes left right toRight toLeft a b) : Concludes right left toLeft toRight b a :=
  talk.imp fun _ => Converses.swap

theorem write_left (rest : Concludes (next (.ok ())) right (toRight ++ symbols) toLeft a b) :
    Concludes ((writeExact symbols).run >>= next) right toRight toLeft a b := by
  rw [writeExact_bind]
  exact rest.elim fun _ talk => ⟨_,talk.write_left⟩

theorem read_left (rest : Concludes (next (.ok chunk)) right toRight toLeft a b) (size : chunk.length = count) :
    Concludes ((readExact count).run >>= next) right toRight (chunk ++ toLeft) a b := by
  subst size
  rw [readExact_bind]
  exact rest.elim fun _ talk => ⟨_,talk.read_left⟩

theorem drain_left (rest : Concludes (next (.ok chunk)) right toRight [] a b) (size : chunk.length = count) :
    Concludes ((readExact count).run >>= next) right toRight chunk a b := by
  simpa using rest.read_left size

theorem write_right (rest : Concludes left (next (.ok ())) toRight (toLeft ++ symbols) a b) :
    Concludes left ((writeExact symbols).run >>= next) toRight toLeft a b :=
  rest.swap.write_left.swap

theorem read_right (rest : Concludes left (next (.ok chunk)) toRight toLeft a b) (size : chunk.length = count) :
    Concludes left ((readExact count).run >>= next) (chunk ++ toRight) toLeft a b :=
  (rest.swap.read_left size).swap

theorem drain_right (rest : Concludes left (next (.ok chunk)) [] toLeft a b) (size : chunk.length = count) :
    Concludes left ((readExact count).run >>= next) chunk toLeft a b :=
  (rest.swap.drain_left size).swap

end Concludes
