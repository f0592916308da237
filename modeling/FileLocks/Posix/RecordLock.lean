/-
  FileLocks/Posix/RecordLock.lean
  ===============================
  **Record locks: byte ranges locked with `fcntl`.**

  A request is encoded as one `fcntl` call.  The command says who will own the
  lock and whether to wait, the type says what is asked for, and the range goes
  into the lock's description unchanged, so that everything about a range,
  negative lengths included, is for the system to judge.

  `decode?` is the system's reading of such a call.
-/
import FileLocks.Request
import FileLocks.System

namespace FileLocks.Posix

/-- Who owns a record lock. -/
inductive Scope where
  /-- The process: its descriptors for one file never conflict, closing any of them
      drops all its locks on the file, and a forked child does not inherit them. -/
  | process
  /-- The open file description: two descriptions of one file conflict even inside
      one process, and the locks stay until the last descriptor is closed. -/
  | openFileDescription
deriving DecidableEq

namespace Scope

/-- The scope's name, as it is printed. -/
def name : Scope → String
  | process => "Process"
  | openFileDescription => "OpenFileDescription"

/-- The `fcntl` command that sets a lock of this scope. -/
def command : Scope → Wait → Int32
  | process, .nonblocking => 6
  | process, .blocking => 7
  | openFileDescription, .nonblocking => 37
  | openFileDescription, .blocking => 38

/-- What a command says. -/
def ofCommand? (cmd : Int32) : Option (Scope × Wait) :=
  if cmd = 6 then some (process, .nonblocking)
  else if cmd = 7 then some (process, .blocking)
  else if cmd = 37 then some (openFileDescription, .nonblocking)
  else if cmd = 38 then some (openFileDescription, .blocking)
  else none

theorem ofCommand?_command (scope : Scope) (wait : Wait) :
    ofCommand? (scope.command wait) = some (scope, wait) := by
  cases scope <;> cases wait <;> decide

end Scope

/-- The lock type that asks for an operation. -/
def lockType : Operation → Int16
  | .acquire _ .shared => 0
  | .acquire _ .exclusive => 1
  | .release => 2

/-- What a lock type asks for, under a command that says whether to wait. -/
def ofLockType? (wait : Wait) (type : Int16) : Option Operation :=
  if type = 0 then some (.acquire wait .shared)
  else if type = 1 then some (.acquire wait .exclusive)
  else if type = 2 then some .release
  else none

theorem ofLockType?_lockType (operation : Operation) :
    ofLockType? operation.wait (lockType operation) = some operation := by
  rcases operation with ⟨_ | _, _ | _⟩ | _ <;> decide

/-- The call that makes a request.  Starts count from the start of the file, and
    the process number stays zero, as description locks demand. -/
def encode (scope : Scope) (r : Request .posix) : Call .posix :=
  .fcntl r.handle (scope.command r.operation.wait)
    { type := lockType r.operation, whence := 0, start := r.range.offset,
      len := r.range.length, pid := 0 }

/-- The request that a call makes, with the scope of its lock. -/
def decode? : Call .posix → Option (Scope × Request .posix)
  | .fcntl fd cmd lock =>
    if lock.whence = 0 ∧ lock.pid = 0 then do
      let (scope, wait) ← Scope.ofCommand? cmd
      let operation ← ofLockType? wait lock.type
      return (scope, ⟨fd, ⟨lock.start, lock.len⟩, operation⟩)
    else none

theorem decode?_encode (scope : Scope) (r : Request .posix) :
    decode? (encode scope r) = some (scope, r) := by
  simp [encode, decode?, Scope.ofCommand?_command, ofLockType?_lockType]

/-- Make the call of a request and leave its trace record.  Any returned number
    but `-1` is a success. -/
def submit {σ : Type} [System .posix σ] (scope : Scope) (r : Request .posix) :
    StateM σ (Outcome .posix) := do
  let result ← (encode scope r).perform
  System.note (.fcntl r.handle (scope.command r.operation.wait) (lockType r.operation)
    r.range.offset r.range.length result)
  return result.map fun _ => ()

end FileLocks.Posix
