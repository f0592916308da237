/-
  FileLocks/Proofs/Scripted/Requests.lean
  =======================================
  **What a request asks of a scripted system.**

  A request that reaches the system is one event, whatever the replies are; on
  Windows a wait for its end may follow.  `Backend.event?` names that event, and
  `requests_submit` and `requests_perform` say that a backend asks for nothing
  else.  The event of a release is the counterpart of the event of the acquisition
  with the same handle and range (`counterpart?_event?`).
-/
import FileLocks.Scripted

namespace FileLocks

variable {p : Platform}

/-! ### Kinds of events -/

namespace Event

/-- Whether the event only waits for the end of a request made before. -/
def awaits : {p : Platform} → Event p → Bool
  | _, .call (.getOverlappedResult ..) => true
  | _, _ => false

/-- Whether the event asks to unlock. -/
def releases : {p : Platform} → Event p → Bool
  | _, .call (.fcntl _ _ lock) => lock.type == Posix.lockType .release
  | _, .call (.unlockFileEx ..) => true
  | _, .call _ => false
  | _, .request r => decide (r.operation = .release)

/-- The event that unlocks exactly what an event locks: on POSIX systems the same
    lock description with the type that unlocks, under the command of the same
    scope that does not wait; on Windows the same file and the same words of length
    and offset; of a recording backend the same handle and range. -/
def counterpart? : {p : Platform} → Event p → Option (Event p)
  | _, .call (.fcntl fd cmd lock) =>
    if lock.type = Posix.lockType .release then none
    else
      (Posix.Scope.ofCommand? cmd).map fun (scope, _) =>
        .call (.fcntl fd (scope.command .nonblocking)
          { lock with type := Posix.lockType .release })
  | _, .call (.lockFileEx file _ reserved lengthLow lengthHigh overlapped) =>
    some (.call (.unlockFileEx file reserved lengthLow lengthHigh overlapped))
  | _, .call _ => none
  | _, .request ⟨handle, range, .acquire _ _⟩ => some (.request ⟨handle, range, .release⟩)
  | _, .request ⟨_, _, .release⟩ => none

theorem releases_of_counterpart?_eq_some :
    ∀ {p : Platform} {a r : Event p}, a.counterpart? = some r →
      a.releases = false ∧ r.releases = true := by
  intro p a r h
  cases a with
  | call c =>
    cases c with
    | fcntl fd cmd lock =>
      simp only [counterpart?] at h
      split at h
      · cases h
      · next htype =>
        rcases Option.map_eq_some_iff.mp h with ⟨⟨scope, wait⟩, -, rfl⟩
        exact ⟨beq_false_of_ne htype, beq_self_eq_true _⟩
    | lockFileEx => cases h; exact ⟨rfl, rfl⟩
    | unlockFileEx => cases h
    | getOverlappedResult => cases h
  | request q =>
    obtain ⟨handle, range, operation⟩ := q
    cases operation with
    | acquire => cases h; exact ⟨rfl, rfl⟩
    | release => cases h

end Event

/-- The events without those that only wait. -/
def requests (events : List (Event p)) : List (Event p) :=
  events.filter fun e => !e.awaits

@[simp] theorem requests_append (xs ys : List (Event p)) :
    requests (xs ++ ys) = requests xs ++ requests ys :=
  List.filter_append xs ys

/-! ### Calls -/

/-- To make a call is one event, whatever the answer. -/
theorem Call.events_perform (call : Call p) (s : Scripted p) :
    (call.perform.run s).2.events = s.events ++ [.call call] := by
  have hask : (Scripted.ask call s).2.events = s.events ++ [.call call] := by
    unfold Scripted.ask
    split <;> rfl
  show ((if p.reportsFailure (Scripted.ask call s).1 then _ else _ : StateM (Scripted p) _).run
    (Scripted.ask call s).2).2.events = _
  split
  · exact hask
  · exact hask

theorem Posix.events_submit (scope : Scope) (r : Request .posix) (s : Scripted .posix) :
    ((submit scope r).run s).2.events = s.events ++ [.call (encode scope r)] :=
  Call.events_perform (encode scope r) s

theorem Win32.events_judge (call : Call .win32) (s : Scripted .win32) :
    ((judge call).run s).2.events = s.events ++ [.call call] :=
  Call.events_perform call s

theorem Win32.awaits_encode (file : Handle .win32) (e : Extent) (operation : Operation) :
    Event.awaits (.call (encode file e operation)) = false := by
  cases operation <;> rfl

/-- A request for an extent is one event, but for the wait that may follow. -/
theorem Win32.requests_finish (file : Handle .win32) (e : Extent) (operation : Operation)
    (s : Scripted .win32) :
    requests ((finish file e operation).run s).2.events
      = requests s.events ++ [.call (encode file e operation)] := by
  have hjudged : requests ((judge (encode file e operation)).run s).2.events
      = requests s.events ++ [.call (encode file e operation)] := by
    rw [events_judge, requests_append]
    simp [requests, awaits_encode]
  show requests ((if isPending ((judge (encode file e operation)).run s).1 then _ else _ :
    StateM (Scripted .win32) _).run ((judge (encode file e operation)).run s).2).2.events = _
  split
  · rw [events_judge, requests_append, hjudged]
    simp [requests, Event.awaits]
  · exact hjudged

/-! ### Requests through a backend -/

namespace Backend

/-- The event by which a backend makes a request.  There is none if the backend
    refuses the request itself. -/
def event? : {p : Platform} → Backend Recorder p → Request p → Option (Event p)
  | _, fcntl scope, r => some (.call (Posix.encode scope r))
  | _, lockFileEx, r =>
    (Win32.extent? r.range).map fun e => .call (Win32.encode r.handle e r.operation)
  | _, custom _, r => some (.request r)
  | _, reference target, r => target.event? r

/-- The event of a request whose handle is checked first. -/
def checkedEvent? (b : Backend Recorder p) (r : Request p) : Option (Event p) :=
  if r.handle.isValid then b.event? r else none

/-- A backend asks for what the request says and for nothing else. -/
theorem requests_submit :
    ∀ {p : Platform} (b : Backend Recorder p) (r : Request p) (s : Scripted p),
      requests ((b.submit r).run s).2.events = requests s.events ++ (b.event? r).toList
  | _, fcntl scope, r, s => by
    show requests ((Posix.submit scope r).run s).2.events = _
    rw [Posix.events_submit, requests_append]
    rfl
  | _, lockFileEx, r, s => by
    show requests ((Win32.submit r).run s).2.events = _
    simp only [event?]
    cases hextent : Win32.extent? r.range with
    | none =>
      have hrun : (Win32.submit r).run s = (.error ⟨Win32Error.invalidParameter⟩, s) := by
        simp only [Win32.submit, hextent]
        rfl
      rw [hrun]
      simp
    | some e =>
      have hrun : ((Win32.submit r).run s).2.events
          = ((Win32.finish r.handle e r.operation).run s).2.events := by
        simp only [Win32.submit, hextent]
        rfl
      rw [hrun, Win32.requests_finish]
      rfl
  | _, custom own, r, s => by
    show requests (Recorder.submit r s).2.events = _
    have hevents : (Recorder.submit r s).2.events = s.events ++ [.request r] := by
      unfold Recorder.submit
      split <;> rfl
    rw [hevents, requests_append]
    rfl
  | _, reference target, r, s => requests_submit target r s

/-- A request that succeeds has reached the system. -/
theorem exists_event?_of_submit_ok :
    ∀ {p : Platform} (b : Backend Recorder p) (r : Request p) (s : Scripted p),
      ((b.submit r).run s).1 = .ok () → ∃ e, b.event? r = some e
  | _, fcntl _, _, _, _ => ⟨_, rfl⟩
  | _, lockFileEx, r, s, hok => by
    cases hextent : Win32.extent? r.range with
    | none =>
      change ((Win32.submit r).run s).1 = .ok () at hok
      simp only [Win32.submit, hextent] at hok
      cases hok
    | some e =>
      refine ⟨.call (Win32.encode r.handle e r.operation), ?_⟩
      simp only [event?, hextent, Option.map_some]
  | _, custom _, _, _, _ => ⟨_, rfl⟩
  | _, reference target, r, s, hok => exists_event?_of_submit_ok target r s hok

theorem requests_perform (b : Backend Recorder p) (r : Request p) (s : Scripted p) :
    requests ((b.perform r).run s).2.events = requests s.events ++ (b.checkedEvent? r).toList := by
  unfold checkedEvent?
  cases hvalid : r.handle.isValid with
  | true =>
    rw [perform_of_isValid b hvalid, if_pos rfl]
    exact requests_submit b r s
  | false =>
    rw [perform_of_not_isValid b hvalid, if_neg Bool.false_ne_true]
    exact (List.append_nil _).symm

theorem exists_checkedEvent?_of_perform_ok (b : Backend Recorder p) (r : Request p)
    (s : Scripted p) (hok : ((b.perform r).run s).1 = .ok ()) :
    ∃ e, b.checkedEvent? r = some e := by
  unfold checkedEvent?
  cases hvalid : r.handle.isValid with
  | true =>
    rw [perform_of_isValid b hvalid] at hok
    rw [if_pos rfl]
    exact exists_event?_of_submit_ok b r s hok
  | false =>
    rw [perform_of_not_isValid b hvalid] at hok
    cases hok

/-! ### Acquisitions and their releases -/

/-- A backend that makes an acquisition also makes the release of the same handle
    and range, and the one event is the counterpart of the other. -/
theorem counterpart?_event? :
    ∀ {p : Platform} (b : Backend Recorder p) (handle : Handle p) (range : ByteRange)
      (wait : Wait) (mode : Mode) {a : Event p},
      b.event? ⟨handle, range, .acquire wait mode⟩ = some a →
        ∃ e, b.event? ⟨handle, range, .release⟩ = some e ∧ a.counterpart? = some e
  | _, fcntl scope, handle, range, wait, mode, a, ha => by
    obtain rfl := Option.some.inj ha
    have htype : Posix.lockType (.acquire wait mode) ≠ Posix.lockType .release := by
      cases wait <;> cases mode <;> decide
    refine ⟨_, rfl, ?_⟩
    simp only [Posix.encode, Event.counterpart?, if_neg htype, Operation.wait,
      Posix.Scope.ofCommand?_command, Option.map_some]
  | _, lockFileEx, handle, range, wait, mode, a, ha => by
    simp only [event?] at ha ⊢
    rcases Option.map_eq_some_iff.mp ha with ⟨e, hextent, rfl⟩
    exact ⟨_, by rw [hextent]; rfl, rfl⟩
  | _, custom _, _, _, _, _, _, ha => by
    obtain rfl := Option.some.inj ha
    exact ⟨_, rfl, rfl⟩
  | _, reference target, handle, range, wait, mode, _, ha =>
    counterpart?_event? target handle range wait mode ha

theorem counterpart?_checkedEvent? (b : Backend Recorder p) (handle : Handle p)
    (range : ByteRange) (wait : Wait) (mode : Mode) {a : Event p}
    (ha : b.checkedEvent? ⟨handle, range, .acquire wait mode⟩ = some a) :
    ∃ e, b.checkedEvent? ⟨handle, range, .release⟩ = some e ∧ a.counterpart? = some e := by
  unfold checkedEvent? at ha ⊢
  dsimp only at ha ⊢
  split at ha
  · next hvalid =>
    rw [if_pos hvalid]
    exact counterpart?_event? b handle range wait mode ha
  · cases ha

end Backend

end FileLocks
