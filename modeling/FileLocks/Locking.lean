/-
  FileLocks/Locking.lean
  ======================
  **Locking through the platform's own backend.**

  Callers who need no backend of their own lock and unlock through the platform's
  default one: with typed requests, with plain values and integer codes, or with
  guards.
-/
import FileLocks.Guard

namespace FileLocks.Handle

variable {p : Platform} {σ : Type} [System p σ]

/-! ### Typed requests -/

/-- Lock a range of the file, or change the mode in which it is locked. -/
def acquire (h : Handle p) (wait : Wait) (range : ByteRange) (mode : Mode) :
    StateM σ (Outcome p) :=
  (Backend.system p : Backend Empty p).perform ⟨h, range, .acquire wait mode⟩

/-- Remove the caller's locks from a range of the file. -/
def release (h : Handle p) (range : ByteRange) : StateM σ (Outcome p) :=
  (Backend.system p : Backend Empty p).perform ⟨h, range, .release⟩

/-! ### Plain values and integer codes -/

/-- Lock a range, with plain values in and a code out. -/
def acquireCode (h : Handle p) (mayBlock : Bool) (offset length : Int64)
    (wantsShared : Bool) : StateM σ Int32 := do
  let outcome ← h.acquire (.ofBlocking mayBlock) ⟨offset, length⟩ (.ofShared wantsShared)
  return outcome.toCode

/-- Unlock a range, with plain values in and a code out. -/
def releaseCode (h : Handle p) (offset length : Int64) : StateM σ Int32 := do
  let outcome ← h.release ⟨offset, length⟩
  return outcome.toCode

/-! ### Guards -/

variable {β : Type} [CustomBackend p β σ]

/-- Lock a range until the guard ends, waiting for it. -/
def lock (h : Handle p) (range : ByteRange) (mode : Mode) :
    StateM σ (Except (Failure p) (Guard β p)) :=
  Guard.acquire (.system p) h .blocking range mode

/-- Lock a range until the guard ends, if that is possible at once. -/
def tryLock (h : Handle p) (range : ByteRange) (mode : Mode) :
    StateM σ (Except (Failure p) (Guard β p)) :=
  Guard.acquire (.system p) h .nonblocking range mode

end FileLocks.Handle
