/-
  FileLocks/Script.lean
  =====================
  **Scripts: sequences of steps against a scripted system.**

  Each step of a script brings its own replies; those it leaves over are lost.
  What stays from step to step is the guards in their slots and the code of the
  last failed call.  After the last step the remaining guards are let go of, in
  the order of their slots.
-/
import FileLocks.Run
import FileLocks.Scripted
import FileLocks.Step

namespace FileLocks.Script

variable {p : Platform}

/-- A step, with the replies to the calls that it makes. -/
structure Move (p : Platform) where
  step : Step Recorder p (Handle p)
  replies : List Reply

/-- What is left of a script between two steps. -/
structure State (p : Platform) where
  lastCode : Int32
  slots : Slots Recorder p

/-- What was asked of the system meanwhile, and what was traced. -/
structure Observation (p : Platform) where
  events : List (Event p)
  trace : List (TraceRecord p)

/-- What a step shows: its answer, and what went on meanwhile. -/
structure Entry (p : Platform) where
  answer : Answer Recorder p
  seen : Observation p

/-- What a whole script shows. -/
structure Transcript (p : Platform) where
  entries : List (Entry p)
  closing : Observation p

namespace State

/-- Before the first step no guard is kept and no call has failed. -/
def initial : State p :=
  ⟨0, .empty⟩

/-- Take one step. -/
def advance (s : State p) (move : Move p) : Entry p × State p :=
  let ((answer, slots), system) :=
    (move.step.perform s.slots).run (Scripted.fresh s.lastCode move.replies)
  (⟨answer, ⟨system.events, system.trace⟩⟩, ⟨system.lastCode, slots⟩)

/-- Take some steps, one after the other. -/
abbrev run (s : State p) (moves : List (Move p)) : List (Entry p) × State p :=
  runAll advance s moves

/-- Let go of all guards, in the order of their slots. -/
def close (s : State p) (replies : List Reply) : Observation p :=
  let ((), system) :=
    (Step.dropAll s.slots.values).run (Scripted.fresh s.lastCode replies)
  ⟨system.events, system.trace⟩

end State

/-- Play a script from the start to the end. -/
def play (moves : List (Move p)) (endReplies : List Reply) : Transcript p :=
  let (entries, last) := State.initial.run moves
  ⟨entries, last.close endReplies⟩

end FileLocks.Script
