/-
  FileLocks/Proofs/Kernel/Requests.lean
  =====================================
  **Requests, byte by byte.**

  A manager of bytes knows what each owner holds on each byte.  It serves a request
  if no rule forbids it, and then writes to the bytes of the range; otherwise it
  refuses with the code of the first rule that does.  `Kernel.responds_answer` says
  that a kernel with its table of spans does the same: seen through its view, spans
  are replaced, cut and split without a trace.
-/
import FileLocks.Kernel
import FileLocks.Proofs.LockTable.Consistency

namespace FileLocks

open Posix (Scope encode)

/-! ### A manager of bytes -/

/-- What each owner holds on each byte. -/
abbrev ByteTable : Type :=
  Owner → Nat → Option Mode

/-- What an operation leaves on the bytes of its range. -/
def Operation.leaves : Operation → Option Mode
  | acquire _ mode => some mode
  | release => none

namespace ByteTable

/-- Another owner holds a byte of the range, and one of the two modes is exclusive. -/
def Blocks (t : ByteTable) (o : Owner) (m : Mode) (r : ByteRange) : Prop :=
  ∃ b, r.Covers b ∧ ∃ o', o' ≠ o ∧
    ∃ m', t o' b = some m' ∧ (m = .exclusive ∨ m' = .exclusive)

/-- The table after the bytes of a range were written for an owner. -/
def write (t : ByteTable) (o : Owner) (r : ByteRange) (content : Option Mode) : ByteTable :=
  fun o' b => if o' = o ∧ r.Covers b then content else t o' b

/-- No rule forbids the operation to a process that asks through a descriptor. -/
def Admits (t : ByteTable) (self : Owner) (scope : Scope) (d? : Option Descriptor)
    (r : ByteRange) : Operation → Prop
  | .acquire _ mode => ∃ d, d? = some d ∧ r.Acceptable ∧ d.access.allows mode = true ∧
      ¬ t.Blocks (Kernel.ownerOf self d scope) mode r
  | .release => ∃ d, d? = some d ∧ r.Acceptable

/-- The code of the first rule that forbids the operation. -/
inductive Refuses (t : ByteTable) (self : Owner) (scope : Scope) (r : ByteRange) :
    Option Descriptor → Operation → Int32 → Prop
  | notOpen (operation : Operation) : Refuses t self scope r none operation Errno.EBADF
  | beforeStart (d : Descriptor) (operation : Operation)
      (range : r.offset.toInt < 0 ∨
        (r.length.toInt < 0 ∧ r.offset.toInt + r.length.toInt < 0)) :
      Refuses t self scope r (some d) operation Errno.EINVAL
  | beyondEnd (d : Descriptor) (operation : Operation) (start : 0 ≤ r.offset.toInt)
      (upwards : 0 < r.length.toInt)
      (range : 0x8000000000000000 < r.offset.toInt + r.length.toInt) :
      Refuses t self scope r (some d) operation Errno.EOVERFLOW
  | noAccess (d : Descriptor) (wait : Wait) (mode : Mode) (range : r.Acceptable)
      (access : d.access.allows mode = false) :
      Refuses t self scope r (some d) (.acquire wait mode) Errno.EBADF
  | blocked (d : Descriptor) (wait : Wait) (mode : Mode) (range : r.Acceptable)
      (access : d.access.allows mode = true)
      (held : t.Blocks (Kernel.ownerOf self d scope) mode r) :
      Refuses t self scope r (some d) (.acquire wait mode) (Kernel.conflictCode wait)

theorem Admits.acceptable {t : ByteTable} {self : Owner} {scope : Scope}
    {d? : Option Descriptor} {r : ByteRange} {operation : Operation}
    (h : t.Admits self scope d? r operation) : ∃ d, d? = some d ∧ r.Acceptable := by
  cases operation with
  | acquire wait mode =>
    obtain ⟨d, hd, hrange, -, -⟩ := h
    exact ⟨d, hd, hrange⟩
  | release => exact h

theorem Refuses.not_admits {t : ByteTable} {self : Owner} {scope : Scope}
    {d? : Option Descriptor} {r : ByteRange} {operation : Operation} {code : Int32}
    (h : t.Refuses self scope r d? operation code) : ¬ t.Admits self scope d? r operation := by
  intro hadmits
  obtain ⟨d', hd', hrange⟩ := hadmits.acceptable
  cases h with
  | notOpen => cases hd'
  | beforeStart d _ range =>
    unfold ByteRange.Acceptable at hrange
    omega
  | beyondEnd d _ start upwards range =>
    unfold ByteRange.Acceptable at hrange
    omega
  | noAccess d wait mode _ access =>
    obtain ⟨d'', hd'', -, hallows, -⟩ := hadmits
    obtain rfl := Option.some.inj hd''
    rw [access] at hallows
    cases hallows
  | blocked d wait mode _ _ held =>
    obtain ⟨d'', hd'', -, -, hfree⟩ := hadmits
    obtain rfl := Option.some.inj hd''
    exact hfree held

end ByteTable

/-! ### Ranges that are refused -/

/-- A range without a span lies before the start or reaches beyond the end. -/
theorem ByteRange.span_eq_error {r : ByteRange} {code : Int32} (h : r.span = .error code) :
    (code = Errno.EINVAL ∧ (r.offset.toInt < 0 ∨
      (r.length.toInt < 0 ∧ r.offset.toInt + r.length.toInt < 0))) ∨
    (code = Errno.EOVERFLOW ∧ 0 ≤ r.offset.toInt ∧ 0 < r.length.toInt ∧
      0x8000000000000000 < r.offset.toInt + r.length.toInt) := by
  simp only [ByteRange.span] at h
  split at h
  · next hstart =>
    cases h
    exact Or.inl ⟨rfl, Or.inl hstart⟩
  · next hstart =>
    split at h
    · next hup =>
      split at h
      · next hend =>
        cases h
        exact Or.inr ⟨rfl, Int.not_lt.mp hstart, hup, hend⟩
      · cases h
    · split at h
      · next hdown =>
        split at h
        · next hbelow =>
          cases h
          exact Or.inl ⟨rfl, Or.inr ⟨hdown, hbelow⟩⟩
        · cases h
      · cases h

/-! ### Kernels -/

namespace Kernel

def view (k : Kernel) : ByteTable :=
  k.locks.modeAt

/-- The open descriptor that a handle names. -/
def descriptorOf? (k : Kernel) : Handle .posix → Option Descriptor
  | .descriptor number => k.descriptor? number

/-- A kernel as it comes about: its locks exclude each other, and no negative number
    is given out. -/
structure Sound (k : Kernel) : Prop where
  consistent : k.locks.Consistent
  numbers : ∀ d ∈ k.descriptors, 0 ≤ d.number

/-- What a kernel makes of a request. -/
inductive Responds (k : Kernel) (self : Owner) (scope : Scope) (r : Request .posix) :
    Except Int32 Kernel → Prop
  | served (d : Descriptor) (k' : Kernel) (found : k.descriptorOf? r.handle = some d)
      (admits : k.view.Admits self scope (some d) r.range r.operation)
      (descriptors : k'.descriptors = k.descriptors) (sound : k'.Sound)
      (view : k'.view = k.view.write (ownerOf self d scope) r.range r.operation.leaves) :
      Responds k self scope r (.ok k')
  | refused (code : Int32)
      (refuses : k.view.Refuses self scope r.range (k.descriptorOf? r.handle) r.operation code) :
      Responds k self scope r (.error code)

theorem Sound.conflicts_iff {k : Kernel} (hk : k.Sound) {o : Owner} {m : Mode} {r : ByteRange}
    {s : Span} (hs : r.span = .ok s) :
    k.locks.conflicts o m s = true ↔ k.view.Blocks o m r := by
  rw [hk.consistent.conflicts_iff]
  simp only [ByteRange.mem_span_iff hs]
  exact Iff.rfl

theorem answer_encode (k : Kernel) (self : Owner) (scope : Scope) (r : Request .posix) :
    k.answer self (encode scope r)
      = match k.descriptorOf? r.handle with
        | none => .error Errno.EBADF
        | some d =>
          match r.range.span with
          | .error code => .error code
          | .ok s => k.serve (ownerOf self d scope) d.access s r.operation := by
  obtain ⟨⟨number⟩, range, operation⟩ := r
  simp only [encode, answer, descriptorOf?]
  cases k.descriptor? number with
  | none => rfl
  | some d =>
    have hdecode := Posix.decode?_encode scope ⟨.descriptor number, range, operation⟩
    simp only [encode] at hdecode
    cases hspan : range.span with
    | error code => simp only [serveOn, hdecode, hspan]
    | ok s => simp only [serveOn, hdecode, hspan]

/-- A kernel answers as a manager of bytes does. -/
theorem responds_answer {k : Kernel} (hk : k.Sound) (self : Owner) (scope : Scope)
    (r : Request .posix) : Responds k self scope r (k.answer self (encode scope r)) := by
  rw [answer_encode]
  cases hd : k.descriptorOf? r.handle with
  | none => exact .refused _ (hd ▸ .notOpen _)
  | some d =>
    cases hs : r.range.span with
    | error code =>
      rcases ByteRange.span_eq_error hs with ⟨rfl, hbefore⟩ | ⟨rfl, hstart, hup, hend⟩
      · exact .refused _ (hd ▸ .beforeStart d _ hbefore)
      · exact .refused _ (hd ▸ .beyondEnd d _ hstart hup hend)
    | ok s =>
      have hrange : r.range.Acceptable := ByteRange.exists_span_iff.mp ⟨s, hs⟩
      obtain ⟨handle, range, operation⟩ := r
      cases operation with
      | release =>
        refine .served d _ hd ⟨d, rfl, hrange⟩ rfl ⟨hk.consistent.clear _ s, hk.numbers⟩ ?_
        funext o b
        simp only [view, ByteTable.write, Operation.leaves, LockTable.modeAt_clear,
          ByteRange.mem_span_iff hs]
      | acquire wait mode =>
        simp only [serve]
        cases haccess : d.access.allows mode with
        | false => exact .refused _ (hd ▸ .noAccess d wait mode hrange haccess)
        | true =>
          rw [if_neg (Bool.noConfusion : ¬ true = false)]
          cases hconflicts :
              k.locks.conflicts (ownerOf self d scope) mode s with
          | true =>
            rw [if_pos rfl]
            exact .refused _
              (hd ▸ .blocked d wait mode hrange haccess ((hk.conflicts_iff hs).mp hconflicts))
          | false =>
            rw [if_neg (Bool.noConfusion : ¬ false = true)]
            have hfree : ¬ k.view.Blocks (ownerOf self d scope) mode range := by
              rw [← hk.conflicts_iff hs, hconflicts]
              exact Bool.noConfusion
            refine .served d _ hd ⟨d, rfl, hrange, haccess, hfree⟩ rfl
              ⟨hk.consistent.place hconflicts, hk.numbers⟩ ?_
            funext o b
            simp only [view, ByteTable.write, Operation.leaves, LockTable.modeAt_place,
              ByteRange.mem_span_iff hs]

end Kernel

end FileLocks
