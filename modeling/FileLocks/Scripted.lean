/-
  FileLocks/Scripted.lean
  =======================
  **A system that answers from a list.**

  A scripted system touches no file.  It answers each call with the next reply of
  a list, and notes every call and every trace record in order.  When the list is
  used up, calls succeed.

  Beside the calls it notes the requests that reach a recording backend, which
  asks no system and takes its outcomes from the same list.
-/
import FileLocks.Backend

namespace FileLocks

/-- A prepared answer: the number that a call returns, and the code that it leaves
    if that number reports a failure. -/
structure Reply where
  ret : Int32
  code : Int32
deriving DecidableEq

/-- Something that was asked of a scripted system. -/
inductive Event (p : Platform) where
  /-- A call to the system. -/
  | call (c : Call p)
  /-- A request to a recording backend. -/
  | request (r : Request p)
deriving DecidableEq

/-- The state of a scripted system. -/
structure Scripted (p : Platform) where
  /-- The replies that are still to be given. -/
  replies : List Reply
  /-- The code of the last call that failed. -/
  lastCode : Int32
  /-- What was asked so far, in order. -/
  events : List (Event p)
  /-- The trace so far, in order. -/
  trace : List (TraceRecord p)

namespace Scripted

variable {p : Platform}

/-- A system that has not been asked anything yet, with the code that earlier
    calls left. -/
def fresh (lastCode : Int32) (replies : List Reply) : Scripted p :=
  ⟨replies, lastCode, [], []⟩

/-- Answer a call.  Only a failure changes the code that is kept. -/
def ask (call : Call p) (s : Scripted p) : Int32 × Scripted p :=
  match s.replies with
  | [] => (p.plainSuccess, { s with events := s.events ++ [.call call] })
  | reply :: rest =>
    (reply.ret,
      { s with
        replies := rest
        lastCode := if p.reportsFailure reply.ret then reply.code else s.lastCode
        events := s.events ++ [.call call] })

instance : System p (Scripted p) where
  ask := ask
  lastCode := fun s => (s.lastCode, s)
  note := fun record s => ((), { s with trace := s.trace ++ [record] })

end Scripted

/-- The backend that notes requests and takes their outcomes from the list of
    replies: zero is success, anything else a failure with the reply's code. -/
inductive Recorder where
  | recorder
deriving DecidableEq

namespace Recorder

variable {p : Platform}

instance : BackendName Recorder :=
  ⟨fun _ => "Fake"⟩

/-- Note a request and give the next reply as its outcome. -/
def submit (r : Request p) (s : Scripted p) : Outcome p × Scripted p :=
  match s.replies with
  | [] => (.ok (), { s with events := s.events ++ [.request r] })
  | reply :: rest =>
    (if reply.ret = 0 then .ok () else .error ⟨reply.code⟩,
      { s with replies := rest, events := s.events ++ [.request r] })

instance : CustomBackend p Recorder (Scripted p) :=
  ⟨fun _ => submit⟩

end Recorder

end FileLocks
