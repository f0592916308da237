/-
  FileLocks/Call.lean
  ===================
  **Calls to the system.**

  The calls by which a range is locked and unlocked, with every word that the
  system is handed.  Lengths and offsets go to Windows as pairs of 32-bit words.
-/
import FileLocks.Handle

namespace FileLocks

/-- The description of a record lock that `fcntl` takes. -/
structure Flock where
  /-- What is asked for: a read lock, a write lock, or no lock. -/
  type : Int16
  /-- What `start` counts from. -/
  whence : Int16
  start : Int64
  len : Int64
  pid : Int32
deriving DecidableEq

/-- The part of a Windows request that outlives the call when the request goes on
    in the background: where the range starts, and what to signal at the end. -/
structure Overlapped where
  offsetLow : UInt32
  offsetHigh : UInt32
  event : Int64
deriving DecidableEq

/-- A call to the system. -/
inductive Call : Platform → Type where
  /-- Set or remove a record lock. -/
  | fcntl (fd : Handle .posix) (cmd : Int32) (lock : Flock) : Call .posix
  /-- Lock a range. -/
  | lockFileEx (file : Handle .win32) (flags reserved lengthLow lengthHigh : UInt32)
      (overlapped : Overlapped) : Call .win32
  /-- Unlock a range. -/
  | unlockFileEx (file : Handle .win32) (reserved lengthLow lengthHigh : UInt32)
      (overlapped : Overlapped) : Call .win32
  /-- Learn how a request in the background ended; with `wait`, after it has. -/
  | getOverlappedResult (file : Handle .win32) (overlapped : Overlapped) (wait : Int32) :
      Call .win32
deriving DecidableEq

/-- The background part that a call hands to the system, if it has one. -/
def Call.overlapped? {p : Platform} : Call p → Option Overlapped
  | fcntl .. => none
  | lockFileEx _ _ _ _ _ overlapped => some overlapped
  | unlockFileEx _ _ _ _ overlapped => some overlapped
  | getOverlappedResult _ overlapped _ => some overlapped

end FileLocks
