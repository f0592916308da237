/-
  FileLocks/Backend.lean
  ======================
  **Backends: who sets and removes the locks.**

  Each platform has its own backend, and a caller may bring others.  A backend
  takes any request, whatever its handle; `perform` is the way in that first
  refuses a handle that cannot name an open file, so that no backend is bothered
  with it.
-/
import FileLocks.Posix.RecordLock
import FileLocks.Win32.FileLock

namespace FileLocks

open Posix (Scope)

/-- How a backend of a caller's own kind `β` is shown for inspection. -/
class BackendName (β : Type) where
  name : β → String

/-- What a backend of a caller's own kind `β` does with a request, on systems
    whose state is a `σ`. -/
class CustomBackend (p : Platform) (β σ : Type) where
  submit : β → Request p → StateM σ (Outcome p)

/-- The backends of a platform, those of a caller's own kind `β` among them. -/
inductive Backend (β : Type) : Platform → Type where
  /-- Record locks of one scope. -/
  | fcntl (scope : Scope) : Backend β .posix
  /-- The file locks of Windows. -/
  | lockFileEx : Backend β .win32
  /-- A backend of the caller's own. -/
  | custom {p : Platform} (own : β) : Backend β p
  /-- A backend that is reached through a reference and does what its target does. -/
  | reference {p : Platform} (target : Backend β p) : Backend β p
deriving DecidableEq

namespace Backend

variable {β : Type} {p : Platform} {σ : Type}

/-- The platform's default backend. -/
def system : (p : Platform) → Backend β p
  | .posix => fcntl .process
  | .win32 => lockFileEx

/-- The scope of the locks that a backend of record locks sets. -/
def scope? : {p : Platform} → Backend β p → Option Scope
  | _, fcntl scope => some scope
  | _, lockFileEx => none
  | _, custom _ => none
  | _, reference target => target.scope?

/-- The backend, shown for inspection.  A reference is shown as its target. -/
def inspect [BackendName β] : {p : Platform} → Backend β p → String
  | _, fcntl scope => Text.Record.oneLine ⟨"FcntlLock", [⟨"scope", scope.name⟩]⟩
  | _, lockFileEx => "Win32Lock"
  | _, custom own => BackendName.name own
  | _, reference target => target.inspect

/-- Hand a request to the backend, whatever its handle. -/
def submit : {p : Platform} → [System p σ] → [CustomBackend p β σ] →
    Backend β p → Request p → StateM σ (Outcome p)
  | _, _, _, fcntl scope, r => Posix.submit scope r
  | _, _, _, lockFileEx, r => Win32.submit r
  | _, _, _, custom own, r => CustomBackend.submit own r
  | _, _, _, reference target, r => target.submit r

/-- Hand a request to the backend, unless its handle cannot name an open file. -/
def perform [System p σ] [CustomBackend p β σ] (b : Backend β p) (r : Request p) :
    StateM σ (Outcome p) :=
  if r.handle.isValid then b.submit r else return .error .invalidHandle

section Lemmas

variable [System p σ] [CustomBackend p β σ]

@[simp] theorem submit_reference (b : Backend β p) (r : Request p) :
    (reference b).submit (σ := σ) r = b.submit r := rfl

@[simp] theorem perform_reference (b : Backend β p) (r : Request p) :
    (reference b).perform (σ := σ) r = b.perform r := rfl

theorem perform_of_isValid (b : Backend β p) {r : Request p} (h : r.handle.isValid = true) :
    b.perform (σ := σ) r = b.submit r := by
  simp [perform, h]

theorem perform_of_not_isValid (b : Backend β p) {r : Request p}
    (h : r.handle.isValid = false) :
    b.perform (σ := σ) r = pure (.error .invalidHandle) := by
  simp [perform, h]

end Lemmas

end Backend

/-! ### Callers without backends of their own -/

instance : BackendName Empty :=
  ⟨Empty.elim⟩

instance {p : Platform} {σ : Type} : CustomBackend p Empty σ :=
  ⟨fun own => own.elim⟩

end FileLocks
