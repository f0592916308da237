/-
  FileLocks/Session.lean
  ======================
  **Sessions: a process at work on one file.**

  A session opens and closes descriptors of one file under names of its own, takes
  steps through them, and forks children that make one request each.  A child
  shares the open descriptions of its parent; what it locked in its own name is
  gone when it ends.
-/
import FileLocks.Kernel
import FileLocks.Run
import FileLocks.Step

namespace FileLocks

/-- What a session's step is about: an open file by its name, or a bare handle. -/
inductive Target where
  | file (name : String)
  | handle (h : Handle .posix)
deriving DecidableEq

/-- The state of a session. -/
structure Session where
  process : Process
  /-- The descriptor numbers of the open files. -/
  files : NameTable Int32
  slots : Slots Empty .posix

namespace Session

/-- One thing that a session does. -/
inductive Action where
  /-- Take a step. -/
  | step (step : Step Empty .posix Target)
  /-- Open the file anew, under a name. -/
  | openFile (name : String) (access : Access)
  /-- Give an open file a further descriptor, under another name. -/
  | dup (name copy : String)
  /-- Close an open file. -/
  | close (name : String)
  /-- Fork a child that makes a request and ends. -/
  | child (invocation : Invocation Empty .posix Target)

/-- What a session sees of an action. -/
inductive Answer where
  | step (answer : FileLocks.Answer Empty .posix)
  /-- Opening, duplicating or closing came to this. -/
  | outcome (o : Outcome .posix)
  /-- The child ended with this code. -/
  | child (code : Int32)

/-- At the start nothing is open, locked or kept. -/
def initial : Session :=
  ⟨⟨.initial, .process, 0⟩, .empty, .empty⟩

/-- The handle of a target.  A name under which nothing is open has the handle
    that never names an open file. -/
def resolve (s : Session) : Target → Handle .posix
  | .handle h => h
  | .file name =>
    match s.files.find? name with
    | some number => .descriptor number
    | none => .invalid .posix

/-- A request in a forked child: the report, and the kernel after the child has
    ended. -/
def runChild (parent : Process) (invocation : Invocation Empty .posix (Handle .posix)) :
    Report .posix × Kernel :=
  let (report, child) := invocation.perform.run { parent with self := .child }
  (report, { child.kernel with locks := child.kernel.locks.dropOwner .child })

/-- Take one action. -/
def advance (s : Session) : Action → Answer × Session
  | .step step =>
    let ((answer, slots), process) :=
      ((step.mapFile s.resolve).perform s.slots).run s.process
    (.step answer, { s with process, slots })
  | .openFile name access =>
    match s.process.kernel.openFile access with
    | .error code => (.outcome (.error ⟨code⟩), s)
    | .ok (number, kernel) =>
      (.outcome (.ok ()),
        { s with process := { s.process with kernel }, files := s.files.insert name number })
  | .dup name copy =>
    match (s.files.find? name).elim (.error Errno.EBADF) s.process.kernel.dup with
    | .error code => (.outcome (.error ⟨code⟩), s)
    | .ok (number, kernel) =>
      (.outcome (.ok ()),
        { s with process := { s.process with kernel }, files := s.files.insert copy number })
  | .close name =>
    match (s.files.find? name).elim (.error Errno.EBADF) s.process.kernel.close with
    | .error code => (.outcome (.error ⟨code⟩), s)
    | .ok kernel =>
      (.outcome (.ok ()),
        { s with process := { s.process with kernel }, files := s.files.erase name })
  | .child invocation =>
    let (report, kernel) := runChild s.process (invocation.mapFile s.resolve)
    (.child report.toCode, { s with process := { s.process with kernel } })

/-- Take some actions, one after the other. -/
abbrev run (s : Session) (actions : List Action) : List Answer × Session :=
  runAll advance s actions

/-- What a whole session shows. -/
def play (actions : List Action) : List Answer :=
  (initial.run actions).1

end Session

end FileLocks
