/-
  FileLocks/Proofs/IntegerCodes.lean
  ==================================
  **What an integer code tells.**

  A request in plain values comes to a code: zero, or the code of the failure.  Read
  back (`Outcome.ofCode`), the code is the outcome of the typed request, with one
  exception: a failure whose own code is zero reads as success.

  On a scripted system the replies tell when that happens: just if the last call of the
  request failed and left the code zero.  What is refused without a call has a code of
  its own, and neither the wait for a request in the background nor the settling of an
  outcome adds another way (`Backend.reaction_system_eq_zero_iff`).

  On a POSIX kernel it never happens.  No rule refuses with the code zero, so there zero
  says that the request was performed.
-/
import FileLocks.Proofs.Scripted.Reactions
import FileLocks.Proofs.Session.Demands

namespace FileLocks

open Posix (Scope)

variable {β : Type} {p : Platform}

/-! ### Codes -/

namespace Outcome

/-- What a code is read as: zero as success, any other as a failure with this code. -/
def ofCode (code : Int32) : Outcome p :=
  if code = 0 then .ok () else .error ⟨code⟩

theorem ofCode_toCode_iff {o : Outcome p} : ofCode o.toCode = o ↔ o ≠ .error ⟨0⟩ := by
  rcases o with ⟨⟨code⟩⟩ | _
  · by_cases hzero : code = 0
    · simp [ofCode, toCode, hzero]
    · simp [ofCode, toCode, hzero]
  · simp [ofCode, toCode]

end Outcome

/-! ### Plain values -/

/-- A request in plain values.  Its file is named apart. -/
inductive PlainRequest where
  | acquire (mayBlock : Bool) (offset length : Int64) (wantsShared : Bool)
  | release (offset length : Int64)

namespace PlainRequest

variable {τ : Type}

def range : PlainRequest → ByteRange
  | acquire _ offset length _ => ⟨offset, length⟩
  | release offset length => ⟨offset, length⟩

def operation : PlainRequest → Operation
  | acquire mayBlock _ _ wantsShared => .acquire (.ofBlocking mayBlock) (.ofShared wantsShared)
  | release _ _ => .release

/-- The request with a code to come. -/
def coded (file : τ) : PlainRequest → Invocation β p τ
  | acquire mayBlock offset length wantsShared =>
    .acquireCode file mayBlock offset length wantsShared
  | release offset length => .releaseCode file offset length

/-- The same request with an outcome to come. -/
def typed (file : τ) (plain : PlainRequest) : Invocation β p τ :=
  .request .default file plain.range plain.operation

theorem route_coded (file : τ) (plain : PlainRequest) :
    (plain.coded file : Invocation β p τ).route = .default := by
  cases plain <;> rfl

theorem asked_coded (file : Handle p) (plain : PlainRequest) :
    (plain.coded file : Invocation β p (Handle p)).asked
      = ⟨file, plain.range, plain.operation⟩ := by
  cases plain <;> rfl

theorem reports_coded (file : τ) (plain : PlainRequest) (o : Outcome p) :
    (plain.coded file : Invocation β p τ).reports o = .code o.toCode := by
  cases plain <;> rfl

theorem mapFile_coded {υ : Type} (f : τ → υ) (file : τ) (plain : PlainRequest) :
    (plain.coded file : Invocation β p τ).mapFile f = plain.coded (f file) := by
  cases plain <;> rfl

/-- With a code or with an outcome to come, the request does the same on every system. -/
theorem run_coded {σ : Type} [System p σ] [CustomBackend p β σ] (plain : PlainRequest)
    (file : Handle p) (s : σ) : ∃ o next,
      (plain.typed file : Invocation β p _).perform.run s = (.outcome o, next) ∧
      (plain.coded file : Invocation β p _).perform.run s = (.code o.toCode, next) := by
  let asked := ((Route.default : Route β p).perform ⟨file, plain.range, plain.operation⟩).run s
  refine ⟨asked.1, asked.2, rfl, ?_⟩
  rw [Invocation.perform_eq, route_coded, asked_coded]
  simp only [StateT.run_map, reports_coded]
  rfl

end PlainRequest

/-! ### The call that decides -/

namespace Event

/-- The last of the events is a call, and the reply to it says that it failed and left the
    code zero.  Each event takes one reply. -/
def EndInCodeZero (asked : List (Event p)) (replies : List Reply) : Prop :=
  ∃ before call reply, asked = before ++ [.call call] ∧ replies[before.length]? = some reply ∧
    p.reportsFailure reply.ret = true ∧ reply.code = 0

theorem endInCodeZero_append_call_iff (before : List (Event p)) {call : Call p}
    {replies : List Reply} :
    EndInCodeZero (before ++ [.call call]) replies ↔
      ∃ reply, replies[before.length]? = some reply ∧ p.reportsFailure reply.ret = true ∧
        reply.code = 0 := by
  constructor
  · rintro ⟨before', call', reply, hasked, hreply⟩
    obtain ⟨rfl, -⟩ := List.append_inj' hasked rfl
    exact ⟨reply, hreply⟩
  · rintro ⟨reply, hreply⟩
    exact ⟨before, call, reply, rfl, hreply⟩

theorem not_endInCodeZero_nil (replies : List Reply) :
    ¬ EndInCodeZero ([] : List (Event p)) replies := by
  rintro ⟨before, call, reply, hasked, -⟩
  simp at hasked

end Event

namespace Win32

theorem settle_eq_zero_iff {operation : Operation} {result : Outcome .win32} :
    settle operation result = .error ⟨0⟩ ↔ result = .error ⟨0⟩ := by
  rcases operation with _ | _
  · rfl
  rcases result with f | _
  · simp only [settle]
    split
    case isTrue hcode =>
      have hother : f ≠ ⟨0⟩ := by
        rintro rfl
        exact absurd hcode (by decide)
      simp [hother]
    case isFalse => rfl
  · rfl

/-- The final answer is that to the wait, if there is one, and else that to the call. -/
theorem finalResult_eq_error_iff {replies : List Reply} {f : Failure .win32} :
    finalResult replies = .error f ↔
      ∃ reply, replies[if isPending (firstResult replies) then 1 else 0]? = some reply ∧
        Platform.win32.reportsFailure reply.ret = true ∧ reply.code = f.code := by
  unfold finalResult
  split
  · rw [firstResult, map_verdict_eq_error_iff, List.head?_eq_getElem?, List.getElem?_tail]
  · rw [firstResult, map_verdict_eq_error_iff, List.head?_eq_getElem?]

end Win32

/-- The default backend fails with code zero just if the last call that it makes does. -/
theorem Backend.reaction_system_eq_zero_iff (r : Request p) (replies : List Reply) :
    let reaction := (system p : Backend Recorder p).reaction r replies
    reaction.outcome = .error ⟨0⟩ ↔ Event.EndInCodeZero reaction.events replies := by
  cases p with
  | posix =>
    simp only [system, reaction]
    rw [map_verdict_eq_error_iff, List.head?_eq_getElem?]
    exact (Event.endInCodeZero_append_call_iff []).symm
  | win32 =>
    simp only [system, reaction]
    cases hextent : Win32.extent? r.range with
    | none => simp [Event.not_endInCodeZero_nil, Win32Error.invalidParameter]
    | some e =>
      dsimp only
      rw [Win32.settle_eq_zero_iff, Win32.finalResult_eq_error_iff]
      -- the reply that decides is read by the wait, if there is one
      by_cases hpending : Win32.isPending (Win32.firstResult replies) = true
      · simp only [if_pos hpending]
        exact (Event.endInCodeZero_append_call_iff [_]).symm
      · simp only [if_neg hpending]
        exact (Event.endInCodeZero_append_call_iff []).symm

theorem Route.reaction_default_eq_zero_iff (r : Request p) (replies : List Reply) :
    let reaction := (default : Route Recorder p).reaction r replies
    reaction.outcome = .error ⟨0⟩ ↔ Event.EndInCodeZero reaction.events replies := by
  unfold reaction
  split
  · have hcode : (Failure.invalidHandle : Failure p) ≠ ⟨0⟩ := by
      cases p <;> decide
    simp [hcode, Event.not_endInCodeZero_nil]
  · exact Backend.reaction_system_eq_zero_iff r replies

/-- A typed request to a scripted system fails with code zero just if its last call does. -/
theorem Route.run_default_eq_zero_iff (r : Request p) (s : Scripted p) :
    let run := ((default : Route Recorder p).perform r).run s
    run.1 = .error ⟨0⟩ ↔
      ∃ asked, run.2.events = s.events ++ asked ∧ Event.EndInCodeZero asked s.replies := by
  obtain ⟨rest, code, hrun⟩ := (default : Route Recorder p).run_perform r s
  simp only [hrun, List.append_cancel_left_eq, exists_eq_left']
  exact reaction_default_eq_zero_iff r s.replies

/-! ### Requests that are performed -/

namespace Kernel

variable {before after : Kernel} {asker : Owner} {scope : Scope} {r : Request .posix}
  {o : Outcome .posix}

/-- The request is performed: no rule forbids it to the one who asks, and afterwards its
    owner holds on the bytes of the range what was asked for, all else being as before. -/
structure Performs (before : Kernel) (asker : Owner) (scope : Scope) (r : Request .posix)
    (after : Kernel) : Prop where
  admits : before.view.Admits asker scope (before.descriptorOf? r.handle) r.range r.operation
  written : ∃ d, before.descriptorOf? r.handle = some d ∧
    after.view = before.view.write (ownerOf asker d scope) r.range r.operation.leaves

/-- A code tells what a request came to, and whether it was performed. -/
structure ToldBy (code : Int32) (before : Kernel) (asker : Owner) (scope : Scope)
    (r : Request .posix) (o : Outcome .posix) (after : Kernel) : Prop where
  nonzero : o ≠ .error ⟨0⟩
  reads : Outcome.ofCode code = o
  performed_iff : code = 0 ↔ before.Performs asker scope r after
  refused : code ≠ 0 → after = before

theorem Conforms.told (h : before.Conforms asker scope r o after) :
    ToldBy o.toCode before asker scope r o after := by
  have hnonzero : o ≠ .error ⟨0⟩ := by
    intro hzero
    exact (h.refused 0 hzero).2.code_ne_zero rfl
  refine ⟨hnonzero, Outcome.ofCode_toCode_iff.mpr hnonzero, ?_, ?_⟩
  · rw [h.toCode_eq_zero_iff]
    constructor
    · intro hok
      exact ⟨h.succeeds_iff.mp hok, h.written hok⟩
    · intro hperforms
      exact h.succeeds_iff.mpr hperforms.admits
  · intro hfails
    rcases o with f | _
    · exact (h.refused f.code rfl).1
    · exact absurd rfl hfails

end Kernel

theorem Process.told_coded (process : Process) (sound : process.kernel.Sound)
    (plain : PlainRequest) (file : Handle .posix) : ∃ o next,
      (plain.typed file : Invocation Empty .posix _).perform.run process = (.outcome o, next) ∧
      (plain.coded file : Invocation Empty .posix _).perform.run process
        = (.code o.toCode, next) ∧
      Kernel.ToldBy o.toCode process.kernel process.self .process
        ⟨file, plain.range, plain.operation⟩ o next.kernel := by
  obtain ⟨o, next, htyped, hcoded⟩ := plain.run_coded (β := Empty) file process
  refine ⟨o, next, htyped, hcoded, ?_⟩
  obtain ⟨o', htold, hserved⟩ :=
    Process.served_invocation sound (plain.typed file : Invocation Empty .posix _)
  rw [htyped] at htold hserved
  cases htold
  exact hserved.conforms.told

namespace Session

variable {s : Session} {invocation : Invocation Empty .posix Target} {report : Report .posix}

theorem advance_invoke {next : Process}
    (run : (invocation.mapFile s.resolve).perform.run s.process = (report, next)) :
    s.advance (.step (.invoke invocation))
      = (.step (.report report), { s with process := next }) := by
  rw [advance_step]
  show (Answer.step (.report ((invocation.mapFile s.resolve).perform.run s.process).1),
    { s with process := ((invocation.mapFile s.resolve).perform.run s.process).2 }) = _
  rw [run]

theorem advance_child {child : Process}
    (run : (invocation.mapFile s.resolve).perform.run { s.process with self := .child }
      = (report, child)) :
    s.forked invocation = child ∧ (s.advance (.child invocation)).1 = .child report.toCode := by
  simp only [forked, advance, runChild, run, and_self]

end Session

/-- **Codes tell outcomes.**  On a scripted system of either platform, a request in plain
    values asks and leaves the same as the typed one, and its code reads as the outcome of
    that, unless it is a failure with code zero.  Such a failure reads as success, and it
    comes about just if the last call of the request failed and left the code zero.

    In every state that a session reaches, for the process and for a forked child, no request
    fails with code zero.  The code then reads as the outcome; it is zero just if the request
    was performed on the locks, and with any other code nothing was changed. -/
theorem codes_tell_outcomes :
    (∀ (p : Platform) (plain : PlainRequest) (file : Handle p) (s : Scripted p),
      ∃ o code next,
        (plain.typed file : Invocation Recorder p _).perform.run s = (.outcome o, next) ∧
        (plain.coded file : Invocation Recorder p _).perform.run s = (.code code, next) ∧
        (Outcome.ofCode code = o ↔ o ≠ .error ⟨0⟩) ∧
        (o = .error ⟨0⟩ → Outcome.ofCode code = (.ok () : Outcome p)) ∧
        (o = .error ⟨0⟩ ↔ ∃ asked, next.events = s.events ++ asked ∧
          Event.EndInCodeZero asked s.replies)) ∧
    ∀ (before : List Session.Action) (plain : PlainRequest) (target : Target),
      let s := (Session.initial.run before).2
      let r : Request .posix := ⟨s.resolve target, plain.range, plain.operation⟩
      (∃ o code next,
        s.advance (.step (.invoke (plain.typed target))) = (.step (.report (.outcome o)), next) ∧
        s.advance (.step (.invoke (plain.coded target))) = (.step (.report (.code code)), next) ∧
        Kernel.ToldBy code s.process.kernel .process .process r o next.process.kernel) ∧
      ∃ o code child,
        (plain.typed (s.resolve target) : Invocation Empty .posix _).perform.run
          { s.process with self := .child } = (.outcome o, child) ∧
        s.forked (plain.coded target) = child ∧
        (s.advance (.child (plain.coded target))).1 = .child code ∧
        Kernel.ToldBy code s.process.kernel .child .process r o child.kernel := by
  constructor
  · intro p plain file s
    obtain ⟨o, next, htyped, hcoded⟩ := plain.run_coded (β := Recorder) file s
    have hzero := Route.run_default_eq_zero_iff ⟨file, plain.range, plain.operation⟩ s
    -- the typed request is this one on the default route
    cases htyped
    refine ⟨_, _, _, rfl, hcoded, Outcome.ofCode_toCode_iff, ?_, hzero⟩
    intro hfails
    rw [hfails]
    rfl
  · intro before plain target s r
    have hs : s.Sound := Session.sound_run_initial before
    constructor
    · obtain ⟨o, next, htyped, hcoded, htold⟩ :=
        Process.told_coded s.process hs.kernel plain (s.resolve target)
      rw [hs.self] at htold
      rw [← PlainRequest.mapFile_coded] at hcoded
      exact ⟨o, o.toCode, _, Session.advance_invoke htyped, Session.advance_invoke hcoded, htold⟩
    · obtain ⟨o, child, htyped, hcoded, htold⟩ :=
        Process.told_coded { s.process with self := .child } hs.kernel plain (s.resolve target)
      rw [← PlainRequest.mapFile_coded] at hcoded
      obtain ⟨hforked, hshown⟩ := Session.advance_child hcoded
      exact ⟨o, o.toCode, child, htyped, hforked, hshown, htold⟩

/-- A wait that fails with code zero is told by the code of success. -/
example :
    let s : Scripted .win32 := Scripted.fresh 0 [⟨0, Win32Error.ioPending⟩, ⟨0, 0⟩]
    (((Handle.object 4).release ⟨0, 10⟩).run s).1 = .error ⟨0⟩ ∧
      (((Handle.object 4).releaseCode 0 10).run s).1 = 0 :=
  ⟨rfl, rfl⟩

end FileLocks
