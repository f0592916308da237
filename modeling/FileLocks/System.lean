/-
  FileLocks/System.lean
  =====================
  **What the library needs of a system.**

  The library runs on any system that answers calls, keeps the code of the last
  failed call, and takes trace records.  The state of the system is a parameter:
  a list of prepared replies and a table of locks are two systems.
-/
import FileLocks.Call
import FileLocks.Trace

namespace FileLocks

/-- A system of platform `p` whose state is a `σ`. -/
class System (p : outParam Platform) (σ : Type) where
  /-- Make a call and get the returned number. -/
  ask : Call p → StateM σ Int32
  /-- The code of the last call that failed. -/
  lastCode : StateM σ Int32
  /-- Hand over a trace record. -/
  note : TraceRecord p → StateM σ Unit

variable {p : Platform} {σ : Type} [System p σ]

/-- The failure of the last call that failed. -/
def Failure.last : StateM σ (Failure p) := do
  return ⟨← System.lastCode⟩

/-- Make a call and judge it by what it returns, looking up the code only after a
    failure. -/
def Call.perform (call : Call p) : StateM σ (Except (Failure p) Int32) := do
  let ret ← System.ask call
  if p.reportsFailure ret then
    return .error (← Failure.last)
  else
    return .ok ret

end FileLocks
