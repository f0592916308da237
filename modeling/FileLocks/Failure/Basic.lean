/-
  FileLocks/Failure/Basic.lean
  ============================
  **Failures of locking requests.**

  A failure is the platform's error code, whatever it is; its kind and its message
  are read off the platform's tables.  Both texts of a failure show the code, so
  that nothing is lost when several codes share a kind or a message.
-/
import FileLocks.Failure.Errno
import FileLocks.Failure.Win32Error
import FileLocks.Platform
import FileLocks.Text.Record

namespace FileLocks

/-- An error code of the platform, met when locking or unlocking a range. -/
structure Failure (p : Platform) where
  code : Int32
deriving DecidableEq

/-- What comes of a request to lock or unlock a range. -/
abbrev Outcome (p : Platform) : Type := Except (Failure p) Unit

/-- The code that stands for an outcome: zero for success, else the failure's. -/
def Outcome.toCode {p : Platform} : Outcome p → Int32
  | .ok _ => 0
  | .error failure => failure.code

namespace Failure

variable {p : Platform}

/-- The failure of a request whose handle cannot name an open file. -/
def invalidHandle : {p : Platform} → Failure p
  | .posix => ⟨Errno.EBADF⟩
  | .win32 => ⟨Win32Error.invalidHandle⟩

/-- The codes that a platform reports about locks, with what they say. -/
def kinds : Platform → List (Int32 × FailureKind)
  | .posix => Errno.kinds
  | .win32 => Win32Error.kinds

/-- The category of the failure; codes that say nothing about locks are `other`. -/
def kind (f : Failure p) : FailureKind :=
  ((kinds p).lookup f.code).getD .other

/-- The failure's message, without its code. -/
def message (f : Failure p) : String :=
  match p with
  | .posix => Errno.message f.code
  | .win32 => Win32Error.message f.code

/-! ### Texts -/

/-- The message, followed by the code. -/
def display (f : Failure p) : String :=
  f.message ++ " (code " ++ Text.decimal f.code.toInt ++ ")"

/-- Code, kind and message as a record. -/
def toRecord (f : Failure p) : Text.Record :=
  ⟨"Error",
    [⟨"code", Text.decimal f.code.toInt⟩, ⟨"kind", f.kind.name⟩,
      ⟨"message", Text.quoted f.message⟩]⟩

/-- The failure, shown for inspection on one line. -/
def inspect (f : Failure p) : String :=
  f.toRecord.oneLine

/-- The failure, shown for inspection with a field a line. -/
def inspectIndented (f : Failure p) : String :=
  f.toRecord.indented

/-! ### As failures of input and output in general -/

/-- The category that the code has among all failures of input and output. -/
def category (f : Failure .posix) : String :=
  Errno.category f.code

/-- The failure as a system error, shown by the symbol of its code. -/
def systemError (f : Failure .posix) : String :=
  "Sys(" ++ Errno.symbol f.code ++ ")"

theorem kind_invalidHandle : (invalidHandle : Failure p).kind = .invalidHandle := by
  cases p <;> decide

end Failure

end FileLocks
