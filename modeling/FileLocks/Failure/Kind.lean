/-
  FileLocks/Failure/Kind.lean
  ===========================
  **Why a lock was not set or removed, in the platforms' common terms.**

  The kinds are a closed set, so that a caller can branch on them without knowing
  either platform's codes.
-/

namespace FileLocks

/-- The category of a locking failure. -/
inductive FailureKind where
  /-- The handle names no file that can be locked this way; it was refused before
      the system was asked, or by the system. -/
  | invalidHandle
  /-- Another owner holds a conflicting lock, and the request was not to wait. -/
  | wouldBlock
  /-- The wait for the lock was cut short. -/
  | interrupted
  /-- The system refused for a reason other than a conflicting lock. -/
  | permissionDenied
  /-- Waiting would have closed a circle of waiters. -/
  | deadlock
  /-- The system has no room for another lock, or the file cannot carry any. -/
  | unavailable
  /-- Offset and length are no range that the system accepts. -/
  | invalidRange
  /-- Any other failure. -/
  | other
deriving DecidableEq

namespace FailureKind

/-- All kinds, in the order in which they are listed to callers. -/
def all : List FailureKind :=
  [invalidHandle, wouldBlock, interrupted, permissionDenied, deadlock, unavailable,
    invalidRange, other]

/-- The kind's name, as it is printed. -/
def name : FailureKind → String
  | invalidHandle => "InvalidHandle"
  | wouldBlock => "WouldBlock"
  | interrupted => "Interrupted"
  | permissionDenied => "PermissionDenied"
  | deadlock => "Deadlock"
  | unavailable => "Unavailable"
  | invalidRange => "InvalidRange"
  | other => "Other"

/-- The kind in words. -/
def description : FailureKind → String
  | invalidHandle => "invalid handle"
  | wouldBlock => "lock held by another owner"
  | interrupted => "lock wait interrupted"
  | permissionDenied => "permission denied"
  | deadlock => "lock wait would deadlock"
  | unavailable => "no locks available"
  | invalidRange => "invalid lock range"
  | other => "other error"

/-- Whether the same request may succeed when it is made again later.  This is
    advice for the caller; the library itself never repeats a request. -/
def isTransient : FailureKind → Bool
  | wouldBlock | interrupted | deadlock => true
  | _ => false

/-- The kind of a given name. -/
def ofName? (name : String) : Option FailureKind :=
  all.find? fun k => k.name == name

theorem mem_all (k : FailureKind) : k ∈ all := by
  cases k <;> decide

theorem ofName?_name (k : FailureKind) : ofName? k.name = some k := by
  cases k <;> decide

end FailureKind

end FileLocks
