/-
  FileLocks/Kernel.lean
  =====================
  **A POSIX kernel, as far as the locks of one file go.**

  The kernel knows which descriptors are open on the file, to which open file
  description each belongs, and who holds which locks.  It decides a request in a
  fixed order: the descriptor, the range, the access, and only then the locks of
  other owners.  A request that fails changes nothing.
-/
import FileLocks.LockTable.Basic
import FileLocks.Posix.RecordLock

namespace FileLocks

/-- What a description was opened for. -/
inductive Access where
  | readOnly
  | writeOnly
  | readWrite
deriving DecidableEq

/-- Locking in a mode needs the matching access. -/
def Access.allows : Access → Mode → Bool
  | readOnly, .exclusive => false
  | writeOnly, .shared => false
  | _, _ => true

/-- An open descriptor of the file. -/
structure Descriptor where
  number : Int32
  /-- The open file description, which descriptors may share. -/
  description : Nat
  access : Access
deriving DecidableEq

/-- The kernel's knowledge of the file. -/
structure Kernel where
  descriptors : List Descriptor
  locks : LockTable
  /-- How many descriptions were opened so far; the next one gets this name. -/
  opened : Nat

namespace Kernel

/-- Nothing is open and nothing is locked. -/
def initial : Kernel :=
  ⟨[], [], 0⟩

/-- The open descriptor of a number. -/
def descriptor? (k : Kernel) (number : Int32) : Option Descriptor :=
  k.descriptors.find? fun d => d.number == number

/-! ### Descriptors -/

/-- The numbers below this one are taken from the start. -/
def firstNumber : Nat := 3

/-- The lowest number that no open descriptor has.  There is none when all
    numbers are in use. -/
def lowestFree? (k : Kernel) : Option Int32 :=
  ((List.range (k.descriptors.length + 1)).find? fun i =>
      decide (firstNumber + i < 0x80000000)
        && !k.descriptors.any fun d => d.number == Int32.ofNat (firstNumber + i)).map
    fun i => Int32.ofNat (firstNumber + i)

/-- Open the file: a new description, under the lowest free number. -/
def openFile (k : Kernel) (access : Access) : Except Int32 (Int32 × Kernel) :=
  match k.lowestFree? with
  | none => .error Errno.EMFILE
  | some number =>
    .ok (number,
      { k with
        descriptors := ⟨number, k.opened, access⟩ :: k.descriptors
        opened := k.opened + 1 })

/-- Give the description of a descriptor a further descriptor. -/
def dup (k : Kernel) (number : Int32) : Except Int32 (Int32 × Kernel) :=
  match k.descriptor? number with
  | none => .error Errno.EBADF
  | some d =>
    match k.lowestFree? with
    | none => .error Errno.EMFILE
    | some copy =>
      .ok (copy, { k with descriptors := { d with number := copy } :: k.descriptors })

/-- The locks that stay when a descriptor of a description is closed and `rest`
    stay open.  All locks of the process go, and those of the description go with
    its last descriptor. -/
def locksAfterClose (locks : LockTable) (description : Nat) (rest : List Descriptor) :
    LockTable :=
  let kept := locks.dropOwner .process
  if rest.any fun d => d.description == description then kept
  else kept.dropOwner (.description description)

/-- Close a descriptor. -/
def close (k : Kernel) (number : Int32) : Except Int32 Kernel :=
  match k.descriptor? number with
  | none => .error Errno.EBADF
  | some d =>
    let rest := k.descriptors.filter fun other => other.number != number
    .ok
      { k with
        descriptors := rest
        locks := locksAfterClose k.locks d.description rest }

/-! ### Locks -/

/-- The owner of the locks that a process sets through a descriptor. -/
def ownerOf (self : Owner) (d : Descriptor) : Posix.Scope → Owner
  | .process => self
  | .openFileDescription => .description d.description

/-- How a request fails that finds a conflicting lock.  One that waits is cut
    short by a signal. -/
def conflictCode : Wait → Int32
  | .blocking => Errno.EINTR
  | .nonblocking => Errno.EAGAIN

/-- Serve an operation on a span for an owner. -/
def serve (k : Kernel) (owner : Owner) (access : Access) (s : Span) :
    Operation → Except Int32 Kernel
  | .release => .ok { k with locks := k.locks.clear owner s }
  | .acquire wait mode =>
    if access.allows mode = false then .error Errno.EBADF
    else if k.locks.conflicts owner mode s then .error (conflictCode wait)
    else .ok { k with locks := k.locks.place owner mode s }

/-- Serve a request of a process through an open descriptor. -/
def serveOn (k : Kernel) (self : Owner) (d : Descriptor) (call : Call .posix) :
    Except Int32 Kernel :=
  match Posix.decode? call with
  | none => .error Errno.EINVAL
  | some (scope, r) =>
    match r.range.span with
    | .error code => .error code
    | .ok s => k.serve (ownerOf self d scope) d.access s r.operation

/-- Answer a call of a process: the kernel afterwards, or the code of the failure. -/
def answer (k : Kernel) (self : Owner) : Call .posix → Except Int32 Kernel
  | .fcntl (.descriptor number) cmd lock =>
    match k.descriptor? number with
    | none => .error Errno.EBADF
    | some d => k.serveOn self d (.fcntl (.descriptor number) cmd lock)

end Kernel

/-! ### Processes as systems -/

/-- A process, with the kernel that it runs on. -/
structure Process where
  kernel : Kernel
  /-- The owner of the process's own locks. -/
  self : Owner
  /-- The code of the last call that failed. -/
  errno : Int32

namespace Process

/-- Make a call to the kernel. -/
def ask (call : Call .posix) (p : Process) : Int32 × Process :=
  match p.kernel.answer p.self call with
  | .ok kernel => (0, { p with kernel })
  | .error code => (-1, { p with errno := code })

instance : System .posix Process where
  ask := ask
  lastCode := fun p => (p.errno, p)
  note := fun _ p => ((), p)

end Process

end FileLocks
