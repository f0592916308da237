/-
  FileLocks/Win32/FileLock.lean
  =============================
  **File locks: byte ranges locked with `LockFileEx`.**

  Windows takes offset and length as unsigned 64-bit words and knows no range that
  runs to the end of the file, so such a range becomes one that runs up to the
  largest offset.  Ranges with a negative word are refused here, before the system
  is asked.

  A request that the system cannot finish at once on a handle opened for
  background work is reported as pending; it is then waited for, once, and the
  answer of the wait is its outcome.
-/
import FileLocks.Request
import FileLocks.System

namespace FileLocks.Win32

/-! ### Extents and words -/

/-- The unsigned offset and length that Windows takes. -/
structure Extent where
  offset : UInt64
  length : UInt64
deriving DecidableEq

/-- The extent of a range; none if a word of the range is negative. -/
def extent? (r : ByteRange) : Option Extent :=
  if r.offset < 0 ∨ r.length < 0 then none
  else
    let offset := r.offset.toUInt64
    some ⟨offset, if r.isToEnd then 0xFFFFFFFFFFFFFFFF - offset else r.length.toUInt64⟩

/-- The range that an extent stands for.  Lengths from `2 ^ 63` on occur only as
    those of ranges that run to the end of the file. -/
def Extent.toRange (e : Extent) : ByteRange :=
  ⟨e.offset.toInt64, if e.length < 0x8000000000000000 then e.length.toInt64 else 0⟩

/-- The lower half of a 64-bit word. -/
def lowWord (w : UInt64) : UInt32 :=
  w.toUInt32

/-- The upper half of a 64-bit word. -/
def highWord (w : UInt64) : UInt32 :=
  (w >>> 32).toUInt32

/-- The 64-bit word of two halves. -/
def joinWords (low high : UInt32) : UInt64 :=
  low.toUInt64 + high.toUInt64 <<< 32

/-! ### Calls -/

/-- The bit that asks for an exclusive lock. -/
def exclusiveFlag : UInt32 := 2

/-- The bit that asks to fail at once instead of waiting. -/
def failImmediatelyFlag : UInt32 := 1

/-- The flags that ask for a lock. -/
def flags (wait : Wait) (mode : Mode) : UInt32 :=
  (if mode = .exclusive then exclusiveFlag else 0)
    ||| (if wait = .nonblocking then failImmediatelyFlag else 0)

/-- The background part of a request at `offset`; nothing is to be signalled. -/
def overlappedAt (offset : UInt64) : Overlapped :=
  ⟨lowWord offset, highWord offset, 0⟩

/-- The call that makes a request for an extent. -/
def encode (file : Handle .win32) (e : Extent) : Operation → Call .win32
  | .acquire wait mode =>
    .lockFileEx file (flags wait mode) 0 (lowWord e.length) (highWord e.length)
      (overlappedAt e.offset)
  | .release =>
    .unlockFileEx file 0 (lowWord e.length) (highWord e.length) (overlappedAt e.offset)

/-- The request that a call makes. -/
def decode? : Call .win32 → Option (Request .win32)
  | .lockFileEx file flags 0 lengthLow lengthHigh overlapped =>
    some
      { handle := file
        range := Extent.toRange
          ⟨joinWords overlapped.offsetLow overlapped.offsetHigh, joinWords lengthLow lengthHigh⟩
        operation := .acquire
          (if flags &&& failImmediatelyFlag = 0 then .blocking else .nonblocking)
          (if flags &&& exclusiveFlag = 0 then .shared else .exclusive) }
  | .unlockFileEx file 0 lengthLow lengthHigh overlapped =>
    some
      { handle := file
        range := Extent.toRange
          ⟨joinWords overlapped.offsetLow overlapped.offsetHigh, joinWords lengthLow lengthHigh⟩
        operation := .release }
  | _ => none

/-! ### Requests -/

/-- The trace record of a request for an extent. -/
def traceRecord (file : Handle .win32) (e : Extent) (operation : Operation)
    (result : Outcome .win32) : TraceRecord .win32 :=
  match operation with
  | .acquire wait mode => .lockFileEx file (flags wait mode) e.offset e.length result
  | .release => .unlockFileEx file e.offset e.length result

/-- Whether a call came to: not done yet. -/
def isPending (result : Outcome .win32) : Bool :=
  match result with
  | .ok _ => false
  | .error failure => failure.code == Win32Error.ioPending

variable {σ : Type} [System .win32 σ]

/-- Make a call whose success tells nothing more. -/
def judge (call : Call .win32) : StateM σ (Outcome .win32) := do
  return (← call.perform).map fun _ => ()

/-- Make the call of a request for an extent.  If it is reported as pending, its
    outcome is that of one wait for its end, whatever that is. -/
def finish (file : Handle .win32) (e : Extent) (operation : Operation) :
    StateM σ (Outcome .win32) := do
  let result ← judge (encode file e operation)
  if isPending result then
    judge (.getOverlappedResult file (overlappedAt e.offset) 1)
  else
    return result

/-- To unlock what is not locked is a success; any other outcome stands. -/
def settle (operation : Operation) (result : Outcome .win32) : Outcome .win32 :=
  match operation, result with
  | .release, .error failure =>
    if failure.code = Win32Error.notLocked then .ok () else .error failure
  | _, _ => result

/-- Make a request and leave its trace record, which shows the outcome before it
    is settled.  A range that has no extent is refused without either. -/
def submit (r : Request .win32) : StateM σ (Outcome .win32) :=
  match extent? r.range with
  | none => return .error ⟨Win32Error.invalidParameter⟩
  | some e => do
    let result ← finish r.handle e r.operation
    System.note (traceRecord r.handle e r.operation result)
    return settle r.operation result

end FileLocks.Win32
