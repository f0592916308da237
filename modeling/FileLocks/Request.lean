/-
  FileLocks/Request.lean
  ======================
  **Requests to lock and unlock.**

  A request names a file, a range of it and an operation.  It says nothing yet of
  how the platform is asked.
-/
import FileLocks.ByteRange
import FileLocks.Handle
import FileLocks.Mode

namespace FileLocks

/-- What to do with a range. -/
inductive Operation where
  /-- Lock it. -/
  | acquire (wait : Wait) (mode : Mode)
  /-- Remove the caller's locks from it. -/
  | release
deriving DecidableEq

/-- A request to lock or unlock a range of an open file. -/
structure Request (p : Platform) where
  handle : Handle p
  range : ByteRange
  operation : Operation
deriving DecidableEq

/-- Whether the request may suspend the caller.  Only locking can. -/
def Operation.wait : Operation → Wait
  | acquire wait _ => wait
  | release => .nonblocking

end FileLocks
