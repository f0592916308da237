/-
  FileLocks/Step.lean
  ===================
  **Steps of a client.**

  A client of the library makes requests and keeps guards in named slots.  A step
  is one thing it does, and its answer is what it sees of it.  Files are named by
  a type `τ` of the client's choice until the step is performed.
-/
import FileLocks.Locking
import FileLocks.NameTable

namespace FileLocks

variable {β : Type} {p : Platform} {σ : Type}

/-! ### Requests without a guard -/

/-- Where a typed request goes in. -/
inductive Route (β : Type) (p : Platform) where
  /-- Through the platform's default backend. -/
  | default
  /-- Through a backend, after the check of the handle. -/
  | checked (backend : Backend β p)
  /-- Straight to a backend. -/
  | bare (backend : Backend β p)

/-- Make a request on a route. -/
def Route.perform [System p σ] [CustomBackend p β σ] :
    Route β p → Request p → StateM σ (Outcome p)
  | default, ⟨handle, range, .acquire wait mode⟩ => handle.acquire wait range mode
  | default, ⟨handle, range, .release⟩ => handle.release range
  | checked backend, r => backend.perform r
  | bare backend, r => backend.submit r

/-- A request that is made without a guard. -/
inductive Invocation (β : Type) (p : Platform) (τ : Type) where
  | request (route : Route β p) (file : τ) (range : ByteRange) (operation : Operation)
  | acquireCode (file : τ) (mayBlock : Bool) (offset length : Int64) (wantsShared : Bool)
  | releaseCode (file : τ) (offset length : Int64)

/-- What a request without a guard comes to. -/
inductive Report (p : Platform) where
  | outcome (o : Outcome p)
  | code (c : Int32)

/-- The code of a report: zero for success, else the failure's. -/
def Report.toCode : Report p → Int32
  | outcome o => o.toCode
  | code c => c

namespace Invocation

/-- The same request with its file named otherwise. -/
def mapFile {τ υ : Type} (f : τ → υ) : Invocation β p τ → Invocation β p υ
  | request route file range operation => request route (f file) range operation
  | acquireCode file mayBlock offset length wantsShared =>
    acquireCode (f file) mayBlock offset length wantsShared
  | releaseCode file offset length => releaseCode (f file) offset length

/-- Make the request. -/
def perform [System p σ] [CustomBackend p β σ] :
    Invocation β p (Handle p) → StateM σ (Report p)
  | request route file range operation => do
    return .outcome (← route.perform ⟨file, range, operation⟩)
  | acquireCode file mayBlock offset length wantsShared => do
    return .code (← file.acquireCode mayBlock offset length wantsShared)
  | releaseCode file offset length => do
    return .code (← file.releaseCode offset length)

end Invocation

/-! ### Steps -/

/-- The guards that a client keeps, by slot. -/
abbrev Slots (β : Type) (p : Platform) : Type := NameTable (Guard β p)

/-- One thing that a client does. -/
inductive Step (β : Type) (p : Platform) (τ : Type) where
  /-- Make a request without a guard. -/
  | invoke (invocation : Invocation β p τ)
  /-- Lock a range through the default backend, waiting, and keep the guard. -/
  | lock (slot : String) (file : τ) (range : ByteRange) (mode : Mode)
  /-- Lock a range through the default backend without waiting, and keep the guard. -/
  | tryLock (slot : String) (file : τ) (range : ByteRange) (mode : Mode)
  /-- Lock a range through a given backend, and keep the guard. -/
  | guard (slot : String) (backend : Backend β p) (file : τ) (wait : Wait)
      (range : ByteRange) (mode : Mode)
  /-- Look at a guard. -/
  | info (slot : String)
  /-- Unlock a guard. -/
  | unlock (slot : String)
  /-- Let go of a guard. -/
  | drop (slot : String)

/-- What a client sees of a step. -/
inductive Answer (β : Type) (p : Platform) where
  /-- A request without a guard, or an unlocking, came to this; so did a request
      for a guard that failed. -/
  | report (r : Report p)
  /-- The guard was made and is kept. -/
  | granted (g : Guard β p)
  /-- The guard in the slot. -/
  | described (g : Guard β p)
  /-- The guard was let go of. -/
  | dropped
  /-- There is no guard in the slot. -/
  | empty

namespace Step

/-- The same step with its file named otherwise. -/
def mapFile {τ υ : Type} (f : τ → υ) : Step β p τ → Step β p υ
  | invoke invocation => invoke (invocation.mapFile f)
  | lock slot file range mode => lock slot (f file) range mode
  | tryLock slot file range mode => tryLock slot (f file) range mode
  | guard slot backend file wait range mode => guard slot backend (f file) wait range mode
  | info slot => info slot
  | unlock slot => unlock slot
  | drop slot => drop slot

variable [System p σ] [CustomBackend p β σ]

/-- Keep a guard in a slot, if there is one.  A guard that the slot held before is
    let go of, after the new one was granted. -/
def keep (slots : Slots β p) (slot : String) :
    Except (Failure p) (Guard β p) → StateM σ (Answer β p × Slots β p)
  | .error failure => return (.report (.outcome (.error failure)), slots)
  | .ok g => do
    match slots.find? slot with
    | some displaced => displaced.drop
    | none => pure ()
    return (.granted g, slots.insert slot g)

/-- Take a step, and tell what is seen of it and which guards are kept after it. -/
def perform (slots : Slots β p) :
    Step β p (Handle p) → StateM σ (Answer β p × Slots β p)
  | invoke invocation => do
    return (.report (← invocation.perform), slots)
  | lock slot file range mode => do
    keep slots slot (← file.lock range mode)
  | tryLock slot file range mode => do
    keep slots slot (← file.tryLock range mode)
  | guard slot backend file wait range mode => do
    keep slots slot (← Guard.acquire backend file wait range mode)
  | info slot =>
    match slots.find? slot with
    | some g => return (.described g, slots)
    | none => return (.empty, slots)
  | unlock slot =>
    match slots.find? slot with
    | some g => do return (.report (.outcome (← g.unlock)), slots.erase slot)
    | none => return (.empty, slots)
  | drop slot =>
    match slots.find? slot with
    | some g => do
      g.drop
      return (.dropped, slots.erase slot)
    | none => return (.empty, slots)

/-- Let go of guards, one after the other. -/
def dropAll : List (Guard β p) → StateM σ Unit
  | [] => return ()
  | g :: rest => do
    g.drop
    dropAll rest

end Step

end FileLocks
