/-
  FileLocks/Proofs/Scripted/Reactions.lean
  ========================================
  **What comes of a request, told from the replies.**

  `Backend.reaction` says for each backend what a request comes to on a scripted
  system, what is asked of the system and what is traced, as a function of the
  replies and of nothing else.  `Backend.run_submit` ties it to the programs.  The
  code that an earlier call left does not occur in it: it is looked up only after a
  call that failed, and that call has put its own there.

  A request reads few of the replies.  `Backend.reads` lists them, and the reaction
  is the same whatever follows (`Backend.reaction_reads`).
-/
import FileLocks.Proofs.Entries
import FileLocks.Scripted

namespace FileLocks

variable {p : Platform}

/-! ### Calls -/

/-- What a call comes to by the reply that it gets.  Without one it succeeds. -/
def verdict (p : Platform) : Option Reply → Except (Failure p) Int32
  | none => .ok p.plainSuccess
  | some reply => if p.reportsFailure reply.ret then .error ⟨reply.code⟩ else .ok reply.ret

theorem map_verdict_eq_error_iff {reply? : Option Reply} {f : Failure p} :
    (verdict p reply?).map (fun _ => ()) = .error f ↔
      ∃ reply, reply? = some reply ∧ p.reportsFailure reply.ret = true ∧ reply.code = f.code := by
  obtain ⟨code⟩ := f
  rcases reply? with _ | reply
  · simp [verdict, Except.map]
  · simp only [verdict, Option.some.injEq, exists_eq_left']
    cases p.reportsFailure reply.ret <;> simp [Except.map]

theorem Call.run_perform (call : Call p) (s : Scripted p) :
    ∃ code, call.perform.run s
      = (verdict p s.replies.head?,
          ⟨s.replies.tail, code, s.events ++ [.call call], s.trace⟩) := by
  obtain ⟨replies, lastCode, events, trace⟩ := s
  cases replies with
  | nil =>
    refine ⟨lastCode, ?_⟩
    show (if p.reportsFailure p.plainSuccess then _ else _ : StateM (Scripted p) _).run
      ⟨[], lastCode, events ++ [.call call], trace⟩ = _
    rw [Platform.reportsFailure_plainSuccess]
    rfl
  | cons reply rest =>
    refine ⟨if p.reportsFailure reply.ret then reply.code else lastCode, ?_⟩
    show (if p.reportsFailure reply.ret then _ else _ : StateM (Scripted p) _).run
      ⟨rest, if p.reportsFailure reply.ret then reply.code else lastCode,
        events ++ [.call call], trace⟩ = _
    simp only [verdict, List.head?_cons, List.tail_cons]
    cases p.reportsFailure reply.ret <;> rfl

/-! ### Requests -/

/-- What comes of a request. -/
structure Reaction (p : Platform) where
  outcome : Outcome p
  /-- What is asked of the system, in order. -/
  events : List (Event p)
  /-- What is traced, in order. -/
  trace : List (TraceRecord p)

namespace Win32

/-- What the call of a request for an extent comes to, before it is waited for. -/
def firstResult (replies : List Reply) : Outcome .win32 :=
  (verdict .win32 replies.head?).map fun _ => ()

/-- What it comes to after the wait for its end, if it is reported as pending. -/
def finalResult (replies : List Reply) : Outcome .win32 :=
  if isPending (firstResult replies) then firstResult replies.tail else firstResult replies

end Win32

namespace Backend

/-- What comes of a request to a backend that gets certain replies. -/
def reaction : {p : Platform} → Backend Recorder p → Request p → List Reply → Reaction p
  | _, fcntl scope, r, replies =>
    { outcome := (verdict .posix replies.head?).map fun _ => ()
      events := [.call (Posix.encode scope r)]
      trace :=
        [.fcntl r.handle (scope.command r.operation.wait) (Posix.lockType r.operation)
          r.range.offset r.range.length (verdict .posix replies.head?)] }
  | _, lockFileEx, r, replies =>
    match Win32.extent? r.range with
    | none => ⟨.error ⟨Win32Error.invalidParameter⟩, [], []⟩
    | some e =>
      { outcome := Win32.settle r.operation (Win32.finalResult replies)
        events :=
          .call (Win32.encode r.handle e r.operation)
            :: if Win32.isPending (Win32.firstResult replies) then
                [.call (.getOverlappedResult r.handle (Win32.overlappedAt e.offset) 1)]
              else []
        trace := [Win32.traceRecord r.handle e r.operation (Win32.finalResult replies)] }
  | _, custom _, r, replies =>
    { outcome :=
        match replies.head? with
        | none => .ok ()
        | some reply => if reply.ret = 0 then .ok () else .error ⟨reply.code⟩
      events := [.request r]
      trace := [] }
  | _, reference target, r, replies => target.reaction r replies

end Backend

theorem Posix.run_submit (scope : Scope) (r : Request .posix) (s : Scripted .posix) :
    ∃ code, (submit scope r).run s
      = ((verdict .posix s.replies.head?).map fun _ => (),
          ⟨s.replies.tail, code, s.events ++ [.call (encode scope r)],
            s.trace ++ [.fcntl r.handle (scope.command r.operation.wait)
              (lockType r.operation) r.range.offset r.range.length
              (verdict .posix s.replies.head?)]⟩) := by
  obtain ⟨code, hrun⟩ := Call.run_perform (encode scope r) s
  refine ⟨code, ?_⟩
  simp only [submit, StateT.run_bind, hrun]
  rfl

namespace Win32

theorem run_judge (call : Call .win32) (s : Scripted .win32) :
    ∃ code, (judge call).run s
      = (firstResult s.replies, ⟨s.replies.tail, code, s.events ++ [.call call], s.trace⟩) := by
  obtain ⟨code, hrun⟩ := Call.run_perform call s
  refine ⟨code, ?_⟩
  simp only [judge, StateT.run_bind, hrun]
  rfl

theorem run_finish (file : Handle .win32) (e : Extent) (operation : Operation)
    (s : Scripted .win32) :
    let asked : List (Event .win32) :=
      .call (encode file e operation)
        :: if isPending (firstResult s.replies) then
            [.call (.getOverlappedResult file (overlappedAt e.offset) 1)]
          else []
    ∃ code, (finish file e operation).run s
      = (finalResult s.replies,
          ⟨s.replies.drop asked.length, code, s.events ++ asked, s.trace⟩) := by
  intro asked
  obtain ⟨code, hfirst⟩ := run_judge (encode file e operation) s
  have hrun : (finish file e operation).run s
      = (if isPending (firstResult s.replies) then
          judge (.getOverlappedResult file (overlappedAt e.offset) 1)
        else pure (firstResult s.replies) : StateM (Scripted .win32) (Outcome .win32)).run
          ⟨s.replies.tail, code, s.events ++ [.call (encode file e operation)], s.trace⟩ := by
    simp only [finish, StateT.run_bind, hfirst]
    rfl
  simp only [hrun, finalResult, asked]
  by_cases hpending : isPending (firstResult s.replies) = true
  · obtain ⟨code', hsecond⟩ := run_judge (.getOverlappedResult file (overlappedAt e.offset) 1)
      ⟨s.replies.tail, code, s.events ++ [.call (encode file e operation)], s.trace⟩
    have hrest : s.replies.tail.tail = s.replies.drop 2 := by
      simp only [← List.drop_one, List.drop_drop, Nat.reduceAdd]
    refine ⟨code', ?_⟩
    simp only [if_pos hpending, hsecond, hrest, List.append_assoc, List.singleton_append,
      List.length_cons, List.length_nil]
  · refine ⟨code, ?_⟩
    simp only [if_neg hpending, List.length_cons, List.length_nil, Nat.zero_add, List.drop_one]
    rfl

end Win32

namespace Backend

/-- A backend reacts to the replies alone, and each event takes one of them.  Beside the
    others it leaves the code of a failure. -/
theorem run_submit : ∀ {p : Platform} (b : Backend Recorder p) (r : Request p) (s : Scripted p),
    ∃ code, (b.submit r).run s
      = ((b.reaction r s.replies).outcome,
          ⟨s.replies.drop (b.reaction r s.replies).events.length, code,
            s.events ++ (b.reaction r s.replies).events,
            s.trace ++ (b.reaction r s.replies).trace⟩)
  | _, fcntl scope, r, s => by
    obtain ⟨code, hrun⟩ := Posix.run_submit scope r s
    rw [← List.drop_one] at hrun
    exact ⟨code, hrun⟩
  | _, lockFileEx, r, s => by
    show ∃ code, (Win32.submit r).run s = _
    simp only [reaction]
    cases hextent : Win32.extent? r.range with
    | none =>
      refine ⟨s.lastCode, ?_⟩
      simp only [Win32.submit, hextent, List.append_nil]
      rfl
    | some e =>
      obtain ⟨code, hrun⟩ := Win32.run_finish r.handle e r.operation s
      refine ⟨code, ?_⟩
      simp only [Win32.submit, hextent, StateT.run_bind, hrun]
      rfl
  | _, custom own, r, s => by
    refine ⟨s.lastCode, ?_⟩
    show Recorder.submit r s = _
    obtain ⟨replies, lastCode, events, trace⟩ := s
    cases replies with
    | nil => simp [Recorder.submit, reaction]
    | cons reply rest => simp [Recorder.submit, reaction]
  | _, reference target, r, s => run_submit target r s

end Backend

/-! ### Replies that are read -/

namespace Win32

theorem isPending_iff {result : Outcome .win32} :
    isPending result = true ↔ result = .error ⟨Win32Error.ioPending⟩ := by
  rcases result with ⟨⟨code⟩⟩ | _ <;> simp [isPending]

/-- The replies that a call and its wait read: the second one only if the first is a
    failure that says: not done yet. -/
def reads : List Reply → List Reply
  | [] => []
  | first :: rest =>
    first :: if first.ret = 0 ∧ first.code = Win32Error.ioPending then rest.take 1 else []

theorem isPending_firstResult_cons (first : Reply) (rest : List Reply) :
    isPending (firstResult (first :: rest)) = true
      ↔ first.ret = 0 ∧ first.code = Win32Error.ioPending := by
  rw [isPending_iff, firstResult, map_verdict_eq_error_iff]
  simp [Platform.reportsFailure]

theorem firstResult_reads (replies : List Reply) :
    firstResult (reads replies) = firstResult replies := by
  cases replies <;> rfl

theorem finalResult_reads (replies : List Reply) :
    finalResult (reads replies) = finalResult replies := by
  cases replies with
  | nil => rfl
  | cons first rest =>
    simp only [finalResult, firstResult_reads]
    by_cases hpending : isPending (firstResult (first :: rest)) = true
    · rw [if_pos hpending, if_pos hpending, reads,
        if_pos ((isPending_firstResult_cons first rest).mp hpending)]
      cases rest <;> rfl
    · rw [if_neg hpending, if_neg hpending]

end Win32

namespace Backend

/-- The replies that a request to a backend reads: none if it is refused there and
    then, else the first one, and a second one as `Win32.reads` has it. -/
def reads : {p : Platform} → Backend Recorder p → Request p → List Reply → List Reply
  | _, fcntl _, _, replies => replies.take 1
  | _, lockFileEx, r, replies =>
    match Win32.extent? r.range with
    | none => []
    | some _ => Win32.reads replies
  | _, custom _, _, replies => replies.take 1
  | _, reference target, r, replies => target.reads r replies

/-- What comes of a request depends on the replies that it reads. -/
theorem reaction_reads : ∀ {p : Platform} (b : Backend Recorder p) (r : Request p)
    (replies : List Reply), b.reaction r (b.reads r replies) = b.reaction r replies
  | _, fcntl scope, r, replies => by simp [reaction, reads, List.head?_take]
  | _, lockFileEx, r, replies =>
    match hextent : Win32.extent? r.range with
    | none => by simp only [reaction, hextent]
    | some e => by
      simp only [reaction, reads, hextent, Win32.firstResult_reads, Win32.finalResult_reads]
  | _, custom own, r, replies => by simp [reaction, reads, List.head?_take]
  | _, reference target, r, replies => reaction_reads target r replies

end Backend

/-- Neither a request that goes on nor one that finds nothing to unlock is a conflict
    or an interruption. -/
theorem Win32.code_ne_of_kind {f : Failure .win32}
    (h : f.kind = .interrupted ∨ f.kind = .wouldBlock) :
    f.code ≠ Win32Error.ioPending ∧ f.code ≠ Win32Error.notLocked := by
  obtain ⟨code⟩ := f
  constructor
  · rintro rfl
    revert h
    decide
  · rintro rfl
    revert h
    decide

namespace Backend

theorem reaction_origin : ∀ {p : Platform} (b : Backend Recorder p) (r : Request p)
    (replies : List Reply), b.origin.reaction r replies = b.reaction r replies
  | _, fcntl _, _, _ => rfl
  | _, lockFileEx, _, _ => rfl
  | _, custom _, _, _ => rfl
  | _, reference target, r, replies => reaction_origin target r replies

/-- The failure that a reply to a request means, if it means one. -/
def refusal? : {p : Platform} → Backend Recorder p → Reply → Option (Failure p)
  | _, fcntl _, reply => if reply.ret = -1 then some ⟨reply.code⟩ else none
  | _, lockFileEx, reply => if reply.ret = 0 then some ⟨reply.code⟩ else none
  | _, custom _, reply => if reply.ret = 0 then none else some ⟨reply.code⟩
  | _, reference target, reply => target.refusal? reply

/-- A conflict and an interruption are reported after a single request. -/
theorem reaction_of_refusal : ∀ {p : Platform} (b : Backend Recorder p) (r : Request p)
    {reply : Reply} (rest : List Reply) {f : Failure p}, b.refusal? reply = some f →
      f.kind = .interrupted ∨ f.kind = .wouldBlock →
      (b.reaction r (reply :: rest)).events = [] ∨
        (b.reaction r (reply :: rest)).outcome = .error f ∧
          ∃ e, (b.reaction r (reply :: rest)).events = [e]
  | _, fcntl scope, r, reply, rest, f, hrefusal, _ => by
    simp only [refusal?] at hrefusal
    split at hrefusal
    · next hret =>
      cases hrefusal
      refine Or.inr ⟨map_verdict_eq_error_iff.mpr ⟨reply, rfl, ?_, rfl⟩, _, rfl⟩
      simp [Platform.reportsFailure, hret]
    · cases hrefusal
  | _, lockFileEx, r, reply, rest, f, hrefusal, hkind => by
    simp only [refusal?] at hrefusal
    split at hrefusal
    · next hret =>
      cases hrefusal
      obtain ⟨hpending, hlocked⟩ := Win32.code_ne_of_kind hkind
      cases hextent : Win32.extent? r.range with
      | none =>
        left
        simp only [reaction, hextent]
      | some e =>
        right
        have hfirst : Win32.firstResult (reply :: rest) = .error ⟨reply.code⟩ := by
          refine map_verdict_eq_error_iff.mpr ⟨reply, rfl, ?_, rfl⟩
          simp [Platform.reportsFailure, hret]
        have hnot : Win32.isPending (Win32.firstResult (reply :: rest)) = false := by
          simp [hfirst, Win32.isPending, hpending]
        have hfinal : Win32.finalResult (reply :: rest) = .error ⟨reply.code⟩ := by
          rw [Win32.finalResult, hnot]
          exact hfirst
        simp only [reaction, hextent, hfinal, hnot]
        refine ⟨?_, _, rfl⟩
        cases r.operation with
        | acquire => rfl
        | release => simp [Win32.settle, hlocked]
    · cases hrefusal
  | _, custom own, r, reply, rest, f, hrefusal, _ => by
    simp only [refusal?] at hrefusal
    split at hrefusal
    · cases hrefusal
    · next hret =>
      cases hrefusal
      refine Or.inr ⟨?_, _, rfl⟩
      simp [reaction, hret]
  | _, reference target, r, reply, rest, f, hrefusal, hkind =>
    reaction_of_refusal target r rest hrefusal hkind

end Backend

/-! ### Requests on a route -/

namespace Route

/-- What comes of a request on a route.  If the handle is checked and cannot name an
    open file, nothing is asked. -/
def reaction (route : Route Recorder p) (r : Request p) (replies : List Reply) : Reaction p :=
  if route.checks && !r.handle.isValid then ⟨.error .invalidHandle, [], []⟩
  else route.backend.reaction r replies

def reads (route : Route Recorder p) (r : Request p) (replies : List Reply) : List Reply :=
  if route.checks && !r.handle.isValid then [] else route.backend.reads r replies

theorem reaction_reads (route : Route Recorder p) (r : Request p) (replies : List Reply) :
    route.reaction r (route.reads r replies) = route.reaction r replies := by
  unfold reaction reads
  split
  · rfl
  · exact route.backend.reaction_reads r replies

theorem run_perform (route : Route Recorder p) (r : Request p) (s : Scripted p) :
    ∃ rest code, (route.perform r).run s
      = ((route.reaction r s.replies).outcome,
          ⟨rest, code, s.events ++ (route.reaction r s.replies).events,
            s.trace ++ (route.reaction r s.replies).trace⟩) := by
  unfold reaction
  obtain ⟨code, hrun⟩ := route.backend.run_submit r s
  cases hchecks : route.checks with
  | false =>
    rw [perform_of_not_checks hchecks]
    exact ⟨_, code, hrun⟩
  | true =>
    rw [perform_of_checks hchecks]
    cases hvalid : r.handle.isValid with
    | true =>
      rw [Backend.perform_of_isValid _ hvalid]
      exact ⟨_, code, hrun⟩
    | false =>
      rw [Backend.perform_of_not_isValid _ hvalid]
      refine ⟨s.replies, s.lastCode, ?_⟩
      simp only [Bool.not_false, Bool.and_true, if_true, List.append_nil]
      rfl

/-- Routes to one backend come to the same, unless one of them skips a check that
    would have refused the handle. -/
theorem reaction_eq_checked {route : Route Recorder p} {b : Backend Recorder p} {r : Request p}
    (same : route.backend.origin = b.origin)
    (checks : route.checks = true ∨ r.handle.isValid = true) (replies : List Reply) :
    route.reaction r replies = (checked b).reaction r replies := by
  have hbackend : route.backend.reaction r replies = b.reaction r replies := by
    rw [← Backend.reaction_origin, same, Backend.reaction_origin]
  have hskips : (route.checks && !r.handle.isValid)
      = ((checked b : Route Recorder p).checks && !r.handle.isValid) := by
    rcases checks with hchecks | hvalid
    · rw [hchecks]
      rfl
    · simp [hvalid]
  rw [reaction, reaction, hskips, hbackend]
  rfl

theorem reaction_of_refusal (route : Route Recorder p) (r : Request p) {reply : Reply}
    (rest : List Reply) {f : Failure p} (refusal : route.backend.refusal? reply = some f)
    (kind : f.kind = .interrupted ∨ f.kind = .wouldBlock) :
    (route.reaction r (reply :: rest)).events = [] ∨
      (route.reaction r (reply :: rest)).outcome = .error f ∧
        ∃ e, (route.reaction r (reply :: rest)).events = [e] := by
  unfold reaction
  split
  · exact Or.inl rfl
  · exact route.backend.reaction_of_refusal r rest refusal kind

end Route

end FileLocks
