/-
  FileLocks/Proofs/Scripted/Tracing.lean
  ======================================
  **The trace is a record of the calls.**

  `answeredCalls` lists the calls of some events that set or remove locks, each with
  what it came to, from the events and the replies alone: every event takes the next
  reply, and a call that was waited for came to what the reply to the wait says.

  Whatever is done on a scripted system, what is traced meanwhile is this list
  (`Traces`): a request keeps it so, and so does one thing done after another.  As a
  record can be read back from its line, the lines of a script tell every call that
  was made in it, and its outcome (`trace_tells_calls`).
-/
import FileLocks.Proofs.Scripted.Encoding
import FileLocks.Proofs.Scripted.Reactions
import FileLocks.Proofs.Texts.TraceLines
import FileLocks.Script
import Mathlib.Data.List.Forall2

namespace FileLocks

variable {p : Platform} {α β : Type}

/-! ### Calls and what they came to -/

/-- What a successful call tells: on POSIX systems the returned number. -/
abbrev Platform.Yield : Platform → Type
  | posix => Int32
  | win32 => Unit

def Platform.yield : (p : Platform) → Int32 → p.Yield
  | posix, ret => ret
  | win32, _ => ()

/-- A call that sets or removes a lock, with what it came to. -/
structure AnsweredCall (p : Platform) where
  call : Call p
  result : Except (Failure p) p.Yield

/-- The call of an event, if it sets or removes a lock. -/
def Event.lockCall? : Event p → Option (Call p)
  | .call c => if awaits (.call c) then none else some c
  | .request _ => none

/-- What a call came to, by the events after it and the replies from its own on.  If the
    next thing is to wait for its end, the reply to that counts. -/
def answeredBy (after : List (Event p)) (replies : List Reply) : Except (Failure p) p.Yield :=
  (verdict p (if after.head?.any Event.awaits then replies.tail.head? else replies.head?)).map
    p.yield

/-- The calls that set or remove locks, in order, with what they came to. -/
def answeredCalls : List (Event p) → List Reply → List (AnsweredCall p)
  | [], _ => []
  | e :: after, replies =>
    (e.lockCall?.map fun call => ⟨call, answeredBy after replies⟩).toList
      ++ answeredCalls after replies.tail

theorem map_call_answeredCalls (es : List (Event p)) (replies : List Reply) :
    (answeredCalls es replies).map AnsweredCall.call = es.filterMap Event.lockCall? := by
  induction es generalizing replies with
  | nil => rfl
  | cons e after ih =>
    rw [answeredCalls, List.map_append, ih, List.filterMap_cons]
    cases e.lockCall? <;> rfl

/-- What comes later does not matter, unless it starts with a wait. -/
theorem answeredCalls_append (es : List (Event p)) {later : List (Event p)}
    (starts : later.head?.any Event.awaits = false) (replies : List Reply) :
    answeredCalls (es ++ later) replies
      = answeredCalls es replies ++ answeredCalls later (replies.drop es.length) := by
  induction es generalizing replies with
  | nil => rfl
  | cons e after ih =>
    have hanswer : answeredBy (after ++ later) replies = answeredBy after replies := by
      unfold answeredBy
      cases after with
      | nil => rw [List.nil_append, starts]; rfl
      | cons => rfl
    rw [List.cons_append, answeredCalls, answeredCalls, hanswer, ih, List.append_assoc,
      List.length_cons, ← List.drop_one, List.drop_drop, Nat.add_comm]

/-- The call that a trace record is about, with what it came to. -/
def TraceRecord.answeredCall : {p : Platform} → TraceRecord p → AnsweredCall p
  | _, fcntl fd cmd type start len result => ⟨.fcntl fd cmd ⟨type, 0, start, len, 0⟩, result⟩
  | _, lockFileEx file flags offset length result =>
    ⟨.lockFileEx file flags 0 (Win32.lowWord length) (Win32.highWord length)
      (Win32.overlappedAt offset), result⟩
  | _, unlockFileEx file offset length result =>
    ⟨.unlockFileEx file 0 (Win32.lowWord length) (Win32.highWord length)
      (Win32.overlappedAt offset), result⟩

theorem Win32.answeredCall_traceRecord (file : Handle .win32) (e : Win32.Extent)
    (operation : Operation) (result : Outcome .win32) :
    (Win32.traceRecord file e operation result).answeredCall
      = ⟨Win32.encode file e operation, result⟩ := by
  cases operation <;> rfl

/-! ### Requests -/

namespace Backend

theorem starts_reaction : ∀ {p : Platform} (b : Backend Recorder p) (r : Request p)
    (replies : List Reply), (b.reaction r replies).events.head?.any Event.awaits = false
  | _, fcntl _, _, _ => rfl
  | _, lockFileEx, r, replies => by
    simp only [reaction]
    cases Win32.extent? r.range with
    | none => rfl
    | some e => exact Win32.awaits_encode r.handle e r.operation
  | _, custom _, _, _ => rfl
  | _, reference target, r, replies => starts_reaction target r replies

theorem answeredCalls_reaction : ∀ {p : Platform} (b : Backend Recorder p) (r : Request p)
    (replies : List Reply),
    (b.reaction r replies).trace.map TraceRecord.answeredCall
      = answeredCalls (b.reaction r replies).events replies
  | _, fcntl scope, r, replies => by
    have hresult : (verdict .posix replies.head?).map (Platform.yield .posix)
        = verdict .posix replies.head? := by
      cases verdict .posix replies.head? <;> rfl
    show [AnsweredCall.mk (Posix.encode scope r) (verdict .posix replies.head?)]
      = [⟨Posix.encode scope r, (verdict .posix replies.head?).map (Platform.yield .posix)⟩]
    rw [hresult]
  | _, lockFileEx, r, replies => by
    simp only [reaction]
    cases Win32.extent? r.range with
    | none => rfl
    | some e =>
      have hcall : Event.lockCall? (.call (Win32.encode r.handle e r.operation))
          = some (Win32.encode r.handle e r.operation) := by
        rw [Event.lockCall?, Win32.awaits_encode, if_neg Bool.false_ne_true]
      simp only [List.map_cons, List.map_nil, Win32.answeredCall_traceRecord, answeredCalls, hcall,
        Win32.finalResult]
      by_cases hpending : Win32.isPending (Win32.firstResult replies) = true
      · simp only [if_pos hpending]
        rfl
      · simp only [if_neg hpending]
        rfl
  | _, custom _, _, _ => rfl
  | _, reference target, r, replies => answeredCalls_reaction target r replies

end Backend

/-! ### What is traced meanwhile -/

/-- Between two states certain events took place, with a reply each, and their calls were
    traced with what they came to. -/
structure Scripted.Traced (s s' : Scripted p) (es : List (Event p)) : Prop where
  events : s'.events = s.events ++ es
  replies : s'.replies = s.replies.drop es.length
  starts : es.head?.any Event.awaits = false
  trace : ∃ records, s'.trace = s.trace ++ records ∧
    records.map TraceRecord.answeredCall = answeredCalls es s.replies

namespace Scripted

variable {s s' s'' : Scripted p} {es es' : List (Event p)}

theorem traced_self (s : Scripted p) : s.Traced s [] := by
  refine ⟨(List.append_nil _).symm, rfl, rfl, [], (List.append_nil _).symm, rfl⟩

theorem Traced.trans (h : s.Traced s' es) (h' : s'.Traced s'' es') : s.Traced s'' (es ++ es') := by
  obtain ⟨records, htrace, hrecords⟩ := h.trace
  obtain ⟨records', htrace', hrecords'⟩ := h'.trace
  refine ⟨?_, ?_, ?_, records ++ records', ?_, ?_⟩
  · rw [h'.events, h.events, List.append_assoc]
  · rw [h'.replies, h.replies, List.drop_drop, List.length_append]
  · cases es with
    | nil => exact h'.starts
    | cons => exact h.starts
  · rw [htrace', htrace, List.append_assoc]
  · rw [List.map_append, hrecords, hrecords', h.replies, answeredCalls_append es h'.starts]

end Scripted

/-- Whatever the program finds, it traces its calls with what they come to. -/
def Traces (m : StateM (Scripted p) α) : Prop :=
  ∀ s : Scripted p, ∃ es, s.Traced (m.run s).2 es

theorem traces_pure (a : α) : Traces (pure a : StateM (Scripted p) α) :=
  fun s => ⟨[], s.traced_self⟩

theorem Traces.bind {m : StateM (Scripted p) α} {f : α → StateM (Scripted p) β} (h : Traces m)
    (h' : ∀ a, Traces (f a)) : Traces (m >>= f) := by
  intro s
  obtain ⟨es, hes⟩ := h s
  obtain ⟨es', hes'⟩ := h' (m.run s).1 (m.run s).2
  exact ⟨es ++ es', hes.trans hes'⟩

theorem Backend.traces_submit (b : Backend Recorder p) (r : Request p) :
    Traces (b.submit r) := by
  intro s
  obtain ⟨code, hrun⟩ := b.run_submit r s
  refine ⟨(b.reaction r s.replies).events, ?_⟩
  rw [hrun]
  exact ⟨rfl, rfl, b.starts_reaction r s.replies, _, rfl, b.answeredCalls_reaction r s.replies⟩

theorem Backend.traces_perform (b : Backend Recorder p) (r : Request p) :
    Traces (b.perform r) := by
  unfold Backend.perform
  split
  · exact b.traces_submit r
  · exact traces_pure _

theorem Route.traces_perform (route : Route Recorder p) (r : Request p) :
    Traces (route.perform r) := by
  cases hchecks : route.checks with
  | true =>
    rw [Route.perform_of_checks hchecks]
    exact route.backend.traces_perform r
  | false =>
    rw [Route.perform_of_not_checks hchecks]
    exact route.backend.traces_submit r

theorem Invocation.traces_perform (invocation : Invocation Recorder p (Handle p)) :
    Traces invocation.perform := by
  rw [Invocation.perform_eq, map_eq_pure_bind]
  exact (invocation.route.traces_perform _).bind fun _ => traces_pure _

namespace Guard

theorem traces_acquire (b : Backend Recorder p) (handle : Handle p) (wait : Wait)
    (range : ByteRange) (mode : Mode) : Traces (acquire b handle wait range mode) :=
  (b.traces_perform _).bind fun _ => traces_pure _

theorem traces_drop (g : Guard Recorder p) : Traces g.drop := by
  unfold Guard.drop
  split
  · exact (g.backend.traces_perform _).bind fun _ => traces_pure _
  · exact traces_pure _

theorem traces_unlock (g : Guard Recorder p) : Traces g.unlock :=
  (g.backend.traces_perform _).bind fun _ => (traces_drop _).bind fun _ => traces_pure _

end Guard

namespace Step

theorem traces_keep (slots : Slots Recorder p) (slot : String)
    (made : Except (Failure p) (Guard Recorder p)) : Traces (keep slots slot made) := by
  cases made with
  | error f => exact traces_pure _
  | ok g =>
    simp only [keep]
    cases slots.find? slot with
    | none => exact (traces_pure _).bind fun _ => traces_pure _
    | some displaced => exact displaced.traces_drop.bind fun _ => traces_pure _

theorem traces_perform (slots : Slots Recorder p) (step : Step Recorder p (Handle p)) :
    Traces (step.perform slots) := by
  cases step with
  | invoke invocation => exact invocation.traces_perform.bind fun _ => traces_pure _
  | lock slot file range mode =>
    exact (Guard.traces_acquire _ _ _ _ _).bind fun made => traces_keep slots slot made
  | tryLock slot file range mode =>
    exact (Guard.traces_acquire _ _ _ _ _).bind fun made => traces_keep slots slot made
  | guard slot backend file wait range mode =>
    exact (Guard.traces_acquire _ _ _ _ _).bind fun made => traces_keep slots slot made
  | info slot =>
    simp only [perform]
    cases slots.find? slot with
    | none => exact traces_pure _
    | some g => exact traces_pure _
  | unlock slot =>
    simp only [perform]
    cases slots.find? slot with
    | none => exact traces_pure _
    | some g => exact g.traces_unlock.bind fun _ => traces_pure _
  | drop slot =>
    simp only [perform]
    cases slots.find? slot with
    | none => exact traces_pure _
    | some g => exact g.traces_drop.bind fun _ => traces_pure _

theorem traces_dropAll (gs : List (Guard Recorder p)) : Traces (dropAll gs) := by
  induction gs with
  | nil => exact traces_pure _
  | cons g rest ih => exact g.traces_drop.bind fun _ => ih

end Step

/-! ### Scripts -/

/-- The call that a line of the trace tells, with what it came to. -/
def AnsweredCall.ofLine? (text : String) : Option ((p : Platform) × AnsweredCall p) :=
  (TraceRecord.ofLine? text).map fun r => ⟨r.1, r.2.answeredCall⟩

theorem AnsweredCall.ofLine?_line (r : TraceRecord p) :
    ofLine? r.line = some ⟨p, r.answeredCall⟩ := by
  have hread : TraceRecord.ofLine? r.line = some ⟨p, r⟩ := TraceRecord.ofLine?_eq_some_iff.mpr rfl
  rw [ofLine?, hread, Option.map_some]

namespace Script

/-- What was traced, as lines. -/
def Observation.lines (o : Observation p) : List String :=
  o.trace.map TraceRecord.line

/-- One line after the other tells the calls that set or remove locks, in the order in
    which they were made, each with what it came to; and there are no other lines. -/
def Observation.TellsCalls (o : Observation p) (replies : List Reply) : Prop :=
  (answeredCalls o.events replies).map AnsweredCall.call = o.events.filterMap Event.lockCall? ∧
    o.lines.map AnsweredCall.ofLine?
      = (answeredCalls o.events replies).map fun answered => some ⟨p, answered⟩

theorem tellsCalls_of_traces {m : StateM (Scripted p) α} (h : Traces m) (code : Int32)
    (replies : List Reply) :
    Observation.TellsCalls
      ⟨(m.run (Scripted.fresh code replies)).2.events,
        (m.run (Scripted.fresh code replies)).2.trace⟩ replies := by
  obtain ⟨es, hes⟩ := h (Scripted.fresh code replies)
  obtain ⟨records, htrace, hrecords⟩ := hes.trace
  have hevents : (m.run (Scripted.fresh code replies)).2.events = es := hes.events
  have htrace : (m.run (Scripted.fresh code replies)).2.trace = records := htrace
  have hrecords : records.map TraceRecord.answeredCall = answeredCalls es replies := hrecords
  refine ⟨map_call_answeredCalls _ _, ?_⟩
  simp only [Observation.lines, hevents, htrace, ← hrecords, List.map_map]
  apply List.map_congr_left
  intro r _
  exact AnsweredCall.ofLine?_line r

theorem State.tellsCalls_run (s : State p) (moves : List (Move p)) :
    List.Forall₂ (fun move entry => entry.seen.TellsCalls move.replies) moves (s.run moves).1 := by
  induction moves generalizing s with
  | nil => exact .nil
  | cons move rest ih =>
    refine .cons ?_ (ih (s.advance move).2)
    exact tellsCalls_of_traces (move.step.traces_perform s.slots) s.lastCode move.replies

/-- **The trace tells the calls.**  In every script, each step's lines and those of its end
    tell one after the other the calls by which locks were set or removed meanwhile, and
    what they came to: the answer of the system, or of the wait for it, as it was given.
    Waits, recording backends and requests that were refused before leave no line.

    Records with the same line are the same, so no line stands for two calls or outcomes. -/
theorem trace_tells_calls :
    (∀ {p : Platform} (moves : List (Move p)) (endReplies : List Reply),
      List.Forall₂ (fun move entry => entry.seen.TellsCalls move.replies) moves
        (play moves endReplies).entries ∧
      (play moves endReplies).closing.TellsCalls endReplies) ∧
    ∀ r r' : (p : Platform) × TraceRecord p, r.2.line = r'.2.line ↔ r = r' := by
  constructor
  · intro p moves endReplies
    constructor
    · exact State.tellsCalls_run State.initial moves
    · exact tellsCalls_of_traces (Step.traces_dropAll _) _ endReplies
  · intro r r'
    exact TraceRecord.line_inj

end Script

end FileLocks
