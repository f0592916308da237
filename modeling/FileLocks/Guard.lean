/-
  FileLocks/Guard.lean
  ====================
  **Guards: locks that end with their holder.**

  A guard is made by a successful request to lock, and remembers what it has to
  release: the backend, the handle and the range.  It releases once.  `unlock`
  does so on demand and tells the outcome; `drop` does so at the end of the
  guard's life, if it was not unlocked before, and tells nothing.
-/
import FileLocks.Backend

namespace FileLocks

/-- A range that is locked for as long as its guard lives. -/
structure Guard (β : Type) (p : Platform) where
  backend : Backend β p
  handle : Handle p
  range : ByteRange
  mode : Mode
  /-- Whether the lock is still to be released. -/
  held : Bool
deriving DecidableEq

namespace Guard

variable {β : Type} {p : Platform} {σ : Type}

/-- The request that releases what the guard locked. -/
def releaseRequest (g : Guard β p) : Request p :=
  ⟨g.handle, g.range, .release⟩

/-- The guard, shown for inspection. -/
def inspect [BackendName β] (g : Guard β p) : String :=
  Text.Record.oneLine
    ⟨"RangeGuard",
      [⟨"backend", g.backend.inspect⟩, ⟨"handle", g.handle.inspect⟩,
        ⟨"range", g.range.inspect⟩, ⟨"mode", g.mode.name⟩,
        ⟨"held", if g.held then "true" else "false"⟩, ⟨"_file", "PhantomData<&()>"⟩]⟩

variable [System p σ] [CustomBackend p β σ]

/-- Lock a range and guard it.  There is no guard if the request fails. -/
def acquire (backend : Backend β p) (handle : Handle p) (wait : Wait) (range : ByteRange)
    (mode : Mode) : StateM σ (Except (Failure p) (Guard β p)) := do
  let outcome ← backend.perform ⟨handle, range, .acquire wait mode⟩
  return outcome.map fun _ => { backend, handle, range, mode, held := true }

/-- End the guard's life: release the lock if that was not done before.  How the
    release goes is not told. -/
def drop (g : Guard β p) : StateM σ Unit := do
  if g.held then
    let _ ← g.backend.perform g.releaseRequest

/-- Release the lock now and end the guard's life.  The lock counts as released
    whatever the outcome is, so it is not released again. -/
def unlock (g : Guard β p) : StateM σ (Outcome p) := do
  let spent := { g with held := false }
  let outcome ← spent.backend.perform spent.releaseRequest
  spent.drop
  return outcome

end Guard

end FileLocks
