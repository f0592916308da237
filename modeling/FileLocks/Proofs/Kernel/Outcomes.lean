/-
  FileLocks/Proofs/Kernel/Outcomes.lean
  =====================================
  **What comes of a request, as a function of the kernel.**

  The kernel alone decides what a request comes to (`Kernel.outcome`) and what it
  leaves (`Kernel.after`).  A process shows and keeps just that, whatever backend or
  route the request takes (`Process.answered_route`), so the check of the handle on
  the way does not show.

  Nothing is asked of the locks here.  Kernels can so be compared that differ in who
  holds what: a refusal that is not transient is the same in all of them
  (`Kernel.outcome_of_permanent`).
-/
import FileLocks.Proofs.Kernel.Processes

namespace FileLocks

open Posix (Scope encode)

/-! ### Refusals -/

/-- A transient refusal is a conflict: only the last rule gives a transient code. -/
theorem ByteTable.Refuses.blocks_of_isTransient {t : ByteTable} {self : Owner} {scope : Scope}
    {r : ByteRange} {d? : Option Descriptor} {operation : Operation} {code : Int32}
    (h : t.Refuses self scope r d? operation code)
    (transient : (⟨code⟩ : Failure .posix).kind.isTransient = true) :
    ∃ d wait mode, d? = some d ∧ operation = .acquire wait mode ∧ r.Acceptable ∧
      d.access.allows mode = true ∧ t.Blocks (Kernel.ownerOf self d scope) mode r := by
  cases h with
  | blocked d wait mode range access held => exact ⟨d, wait, mode, rfl, rfl, range, access, held⟩
  | notOpen | beforeStart | beyondEnd | noAccess => exact absurd transient (by decide)

namespace Kernel

variable {k : Kernel} {self : Owner} {scope : Scope} {r : Request .posix} {f : Failure .posix}

/-! ### Outcomes -/

/-- What a request comes to. -/
def outcome (k : Kernel) (self : Owner) (scope : Scope) (r : Request .posix) : Outcome .posix :=
  match k.answer self (encode scope r) with
  | .ok _ => .ok ()
  | .error code => .error ⟨code⟩

/-- The kernel after a request, granted or refused. -/
def after (k : Kernel) (self : Owner) (scope : Scope) (r : Request .posix) : Kernel :=
  match k.answer self (encode scope r) with
  | .ok k' => k'
  | .error _ => k

/-- A description owns its locks, whoever asks for them. -/
theorem answer_openFileDescription (k : Kernel) (self self' : Owner) (r : Request .posix) :
    k.answer self (encode .openFileDescription r)
      = k.answer self' (encode .openFileDescription r) := by
  rw [answer_encode, answer_encode]
  rfl

/-- A request changes the locks of the owner that it is made for, or nothing. -/
theorem after_cases (k : Kernel) (self : Owner) (scope : Scope) (r : Request .posix) :
    k.after self scope r = k ∨ ∃ d s,
      (k.after self scope r = { k with locks := k.locks.clear (ownerOf self d scope) s }) ∨
      ∃ m, k.after self scope r = { k with locks := k.locks.place (ownerOf self d scope) m s } := by
  unfold after
  rw [answer_encode]
  cases k.descriptorOf? r.handle with
  | none => exact Or.inl rfl
  | some d =>
    cases r.range.span with
    | error code => exact Or.inl rfl
    | ok s =>
      cases r.operation with
      | release => exact Or.inr ⟨d, s, Or.inl rfl⟩
      | acquire wait mode =>
        simp only [serve]
        cases d.access.allows mode with
        | false => exact Or.inl rfl
        | true =>
          cases k.locks.conflicts (ownerOf self d scope) mode s with
          | true => exact Or.inl rfl
          | false => exact Or.inr ⟨d, s, Or.inr ⟨mode, rfl⟩⟩

/-! ### Other locks -/

/-- The rules in their order.  Locks are looked at by the last one only. -/
theorem outcome_eq (k : Kernel) (self : Owner) (scope : Scope) (r : Request .posix) :
    k.outcome self scope r
      = match k.descriptorOf? r.handle with
        | none => .error ⟨Errno.EBADF⟩
        | some d =>
          match r.range.span, r.operation with
          | .error code, _ => .error ⟨code⟩
          | .ok _, .release => .ok ()
          | .ok s, .acquire wait mode =>
            if d.access.allows mode = false then .error ⟨Errno.EBADF⟩
            else if k.locks.conflicts (ownerOf self d scope) mode s then
              .error ⟨conflictCode wait⟩
            else .ok () := by
  unfold outcome
  rw [answer_encode]
  cases k.descriptorOf? r.handle with
  | none => rfl
  | some d =>
    cases r.range.span with
    | error code => rfl
    | ok s =>
      cases r.operation with
      | release => rfl
      | acquire wait mode =>
        simp only [serve]
        cases d.access.allows mode with
        | false => rfl
        | true =>
          cases k.locks.conflicts (ownerOf self d scope) mode s with
          | true => rfl
          | false => rfl

/-- The same requests find the same files open in a kernel with other locks. -/
@[simp] theorem descriptorOf?_withLocks (k : Kernel) (locks : LockTable) (h : Handle .posix) :
    ({ k with locks } : Kernel).descriptorOf? h = k.descriptorOf? h :=
  descriptorOf?_eq_of_descriptors rfl h

/-- A refusal that is not transient is none of the locks' making. -/
theorem outcome_of_permanent (h : k.outcome self scope r = .error f)
    (permanent : f.kind.isTransient = false) (locks : LockTable) :
    ({ k with locks } : Kernel).outcome self scope r = .error f := by
  rw [outcome_eq] at h
  rw [outcome_eq, descriptorOf?_withLocks]
  cases hd : k.descriptorOf? r.handle with
  | none =>
    rw [hd] at h
    exact h
  | some d =>
    rw [hd] at h
    cases hs : r.range.span with
    | error code =>
      simp only [hs] at h ⊢
      exact h
    | ok s =>
      cases hoperation : r.operation with
      | release =>
        simp only [hs, hoperation] at h
        cases h
      | acquire wait mode =>
        simp only [hs, hoperation] at h ⊢
        by_cases haccess : d.access.allows mode = false
        · rw [if_pos haccess] at h ⊢
          exact h
        · -- only a conflict is left, and that is transient
          rw [if_neg haccess] at h
          split at h
          · cases h
            cases wait <;> exact absurd permanent (by decide)
          · cases h

/-- A request that every rule but the last lets pass succeeds where nothing conflicts. -/
theorem outcome_of_no_conflict {d : Descriptor} {s : Span} {wait : Wait} {mode : Mode}
    (found : k.descriptorOf? r.handle = some d) (range : r.range.span = .ok s)
    (acquires : r.operation = .acquire wait mode) (access : d.access.allows mode = true)
    (free : k.locks.conflicts (ownerOf self d scope) mode s = false) :
    k.outcome self scope r = .ok () := by
  rw [outcome_eq, found]
  simp only [range, acquires, access, free]
  rfl

end Kernel

/-! ### Processes -/

namespace Process.Answered

variable {p p' : Process} {scope : Scope} {r : Request .posix} {o : Outcome .posix}

theorem outcome_eq (h : p.Answered scope r o p') : o = p.kernel.outcome p.self scope r := by
  cases h with
  | granted kernel answer => rw [Kernel.outcome, answer]
  | refused code errno answer => rw [Kernel.outcome, answer]

theorem kernel_eq (h : p.Answered scope r o p') :
    p'.kernel = p.kernel.after p.self scope r := by
  cases h with
  | granted kernel answer => rw [Kernel.after, answer]
  | refused code errno answer => rw [Kernel.after, answer]

end Process.Answered

/-- What a request comes to, and what it leaves, is what a manager of bytes would have. -/
theorem Kernel.conforms_outcome {k : Kernel} (hk : k.Sound) (self : Owner) (scope : Scope)
    (r : Request .posix) :
    k.Conforms self scope r (k.outcome self scope r) (k.after self scope r) := by
  have hanswered := Process.answered_submit ⟨k, self, 0⟩ (.fcntl scope) r
  have hconforms := (hanswered.served hk).conforms
  rw [hanswered.outcome_eq, hanswered.kernel_eq] at hconforms
  exact hconforms

end FileLocks
