/-
  FileLocks/Failure/Win32Error.lean
  =================================
  **The error codes of Windows.**

  `kinds` says what the codes that file locks can end with mean here, and `texts`
  is the wording of those codes that have one.  The two tables list different
  codes: a code may be understood and have no wording of its own, and the other
  way round.
-/
import FileLocks.Failure.Kind

namespace FileLocks.Win32Error

/-! ### The codes that file locks end with -/

def success : Int32 := 0
def accessDenied : Int32 := 5
def invalidHandle : Int32 := 6
def notEnoughMemory : Int32 := 8
def lockViolation : Int32 := 33
def sharingBufferExceeded : Int32 := 36
def invalidParameter : Int32 := 87
/-- The range that was to be unlocked is not locked. -/
def notLocked : Int32 := 158
def operationAborted : Int32 := 995
/-- The request went on in the background; its outcome is not known yet. -/
def ioPending : Int32 := 997
def possibleDeadlock : Int32 := 1131

/-- What these codes say about a lock. -/
def kinds : List (Int32 × FailureKind) :=
  [(invalidHandle, .invalidHandle), (lockViolation, .wouldBlock),
    (operationAborted, .interrupted), (accessDenied, .permissionDenied),
    (possibleDeadlock, .deadlock), (notEnoughMemory, .unavailable),
    (sharingBufferExceeded, .unavailable), (invalidParameter, .invalidRange)]

/-! ### Messages -/

/-- The wording of the codes that have one. -/
def texts : List (Int32 × String) :=
  [(success, "The operation completed successfully."),
    (invalidHandle, "The handle is invalid."),
    (accessDenied, "Access is denied."),
    (lockViolation,
      "The process cannot access the file because another process has locked a portion of the file."),
    (notLocked, "The segment is already unlocked."),
    (invalidParameter, "The parameter is incorrect."),
    (operationAborted,
      "The I/O operation has been aborted because of either a thread exit or an application request."),
    (notEnoughMemory, "Not enough memory resources are available to process this command.")]

/-- The message of a code that has no wording. -/
def unknownText : String := "Unknown error"

/-- The message of a code. -/
def message (code : Int32) : String :=
  (texts.lookup code).getD unknownText

end FileLocks.Win32Error
