/-
  FileLocks/Trace.lean
  ====================
  **The trace of system calls.**

  Every call that sets or removes a lock leaves one record, written when its
  outcome is known.  A record holds the words of the call that vary and what the
  call came to: on POSIX systems the returned number, on Windows success alone.
-/
import FileLocks.Failure.Basic
import FileLocks.Handle

namespace FileLocks

/-- The record of one system call. -/
inductive TraceRecord : Platform → Type where
  | fcntl (fd : Handle .posix) (cmd : Int32) (type : Int16) (start len : Int64)
      (result : Except (Failure .posix) Int32) : TraceRecord .posix
  | lockFileEx (file : Handle .win32) (flags : UInt32) (offset length : UInt64)
      (result : Outcome .win32) : TraceRecord .win32
  | unlockFileEx (file : Handle .win32) (offset length : UInt64)
      (result : Outcome .win32) : TraceRecord .win32

namespace TraceRecord

/-- What came of a call, given how a success is written. -/
def resultText {p : Platform} {α : Type} (success : α → String) :
    Except (Failure p) α → String
  | .ok value => "Ok(" ++ success value ++ ")"
  | .error failure => "Err(" ++ failure.inspect ++ ")"

/-- The record as a line of the trace. -/
def line {p : Platform} : TraceRecord p → String
  | fcntl fd cmd type start len result =>
    "TRACE fcntl(fd=" ++ Text.decimal fd.raw
      ++ ", cmd=" ++ Text.decimal cmd.toInt
      ++ ", type=" ++ Text.decimal type.toInt
      ++ ", start=" ++ Text.decimal start.toInt
      ++ ", len=" ++ Text.decimal len.toInt
      ++ ") -> " ++ resultText (fun ret => Text.decimal ret.toInt) result
  | lockFileEx file flags offset length result =>
    "TRACE LockFileEx(handle=" ++ Text.decimal file.raw
      ++ ", flags=" ++ Text.hexadecimal flags.toNat
      ++ ", offset=" ++ Text.decimal offset.toNat
      ++ ", len=" ++ Text.decimal length.toNat
      ++ ") -> " ++ resultText (fun _ => "()") result
  | unlockFileEx file offset length result =>
    "TRACE UnlockFileEx(handle=" ++ Text.decimal file.raw
      ++ ", offset=" ++ Text.decimal offset.toNat
      ++ ", len=" ++ Text.decimal length.toNat
      ++ ") -> " ++ resultText (fun _ => "()") result

end TraceRecord

end FileLocks
