/-
  FileLocks/Proofs/Scripted/Answers.lean
  ======================================
  **What a step of a script shows.**

  A step that makes a request shows the reaction to it (`advance_of_entry`), and
  nothing else has a say in what it shows: not the code of an earlier failure, not
  the guards in other slots, not the replies that are left over.

  Two results follow.  The ways in agree: however a request is made, what is asked,
  what is traced and what it comes to is the same (`ways_in_agree`).  And a step does
  not remember: after any two histories it shows the same, if it reads the same
  replies (`history_does_not_show`).
-/
import FileLocks.Proofs.Scripted.Reactions
import FileLocks.Script

namespace FileLocks.Script

variable {p : Platform}

/-! ### Steps that make a request -/

namespace State

theorem held_run {s : State p} (h : s.slots.Held) (moves : List (Move p)) :
    (s.run moves).2.slots.Held :=
  runAll_keeps (fun _ m h => Step.held_perform h m.step _) h moves

/-- The state after some moves, with any code that a call has left meanwhile. -/
def reached (before : List (Move p)) (code : Int32) : State p :=
  ⟨code, (initial.run before).2.slots⟩

theorem held_reached (before : List (Move p)) (code : Int32) :
    (reached before code).slots.Held :=
  held_run (s := (initial : State p)) nofun before

/-- A step that displaces no guard shows the reaction to its request. -/
theorem advance_of_entry {s : State p} (held : s.slots.Held) {step : Step Recorder p (Handle p)}
    {route : Route Recorder p} {r : Request p} (entry : step.enters? s.slots = some (route, r))
    (place : step.displaces? s.slots = none) (replies : List Reply) :
    (s.advance ⟨step, replies⟩).1
      = ⟨step.tells (route.reaction r replies).outcome,
          ⟨(route.reaction r replies).events, (route.reaction r replies).trace⟩⟩ := by
  obtain ⟨rest, code, hrun⟩ := route.run_perform r (Scripted.fresh s.lastCode replies)
  simp only [advance, Step.perform_eq held entry, Step.clearPlace_of_displaces?_eq_none place,
    StateT.run_bind, hrun]
  rfl

end State

/-! ### The ways in -/

/-- The ways to make a request through a backend `b`.  A route or a guard may have
    `b` itself or a reference to it.  The routes that name no backend are those of the
    default one. -/
inductive WayIn (slots : Slots Recorder p) (b : Backend Recorder p) :
    Request p → Step Recorder p (Handle p) → Prop
  | default (file : Handle p) (range : ByteRange) (operation : Operation)
      (same : b.origin = .system p) :
      WayIn slots b ⟨file, range, operation⟩ (.invoke (.request .default file range operation))
  | acquireCode (file : Handle p) (mayBlock : Bool) (offset length : Int64)
      (wantsShared : Bool) (same : b.origin = .system p) :
      WayIn slots b
        ⟨file, ⟨offset, length⟩, .acquire (.ofBlocking mayBlock) (.ofShared wantsShared)⟩
        (.invoke (.acquireCode file mayBlock offset length wantsShared))
  | releaseCode (file : Handle p) (offset length : Int64) (same : b.origin = .system p) :
      WayIn slots b ⟨file, ⟨offset, length⟩, .release⟩ (.invoke (.releaseCode file offset length))
  | checked (b' : Backend Recorder p) (file : Handle p) (range : ByteRange)
      (operation : Operation) (same : b'.origin = b.origin) :
      WayIn slots b ⟨file, range, operation⟩
        (.invoke (.request (.checked b') file range operation))
  /-- Past the check of the handle, if that makes no difference. -/
  | bare (b' : Backend Recorder p) (file : Handle p) (range : ByteRange)
      (operation : Operation) (same : b'.origin = b.origin) (valid : file.isValid = true) :
      WayIn slots b ⟨file, range, operation⟩ (.invoke (.request (.bare b') file range operation))
  | lock (slot : String) (file : Handle p) (range : ByteRange) (mode : Mode)
      (same : b.origin = .system p) (vacant : slots.find? slot = none) :
      WayIn slots b ⟨file, range, .acquire .blocking mode⟩ (.lock slot file range mode)
  | tryLock (slot : String) (file : Handle p) (range : ByteRange) (mode : Mode)
      (same : b.origin = .system p) (vacant : slots.find? slot = none) :
      WayIn slots b ⟨file, range, .acquire .nonblocking mode⟩ (.tryLock slot file range mode)
  | guard (slot : String) (b' : Backend Recorder p) (file : Handle p) (wait : Wait)
      (range : ByteRange) (mode : Mode) (same : b'.origin = b.origin)
      (vacant : slots.find? slot = none) :
      WayIn slots b ⟨file, range, .acquire wait mode⟩ (.guard slot b' file wait range mode)
  | unlock (slot : String) (g : Guard Recorder p) (same : g.backend.origin = b.origin)
      (found : slots.find? slot = some g) : WayIn slots b g.releaseRequest (.unlock slot)
  | drop (slot : String) (g : Guard Recorder p) (same : g.backend.origin = b.origin)
      (found : slots.find? slot = some g) : WayIn slots b g.releaseRequest (.drop slot)

theorem WayIn.exists_entry {slots : Slots Recorder p} {b : Backend Recorder p} {r : Request p}
    {step : Step Recorder p (Handle p)} (h : WayIn slots b r step) :
    ∃ route, step.enters? slots = some (route, r) ∧ route.backend.origin = b.origin ∧
      (route.checks = true ∨ r.handle.isValid = true) ∧ step.displaces? slots = none := by
  have hsystem : (Backend.system p : Backend Recorder p).origin = .system p := by
    cases p <;> rfl
  cases h with
  | default file range operation same =>
    exact ⟨.default, rfl, hsystem.trans same.symm, Or.inl rfl, rfl⟩
  | acquireCode file mayBlock offset length wantsShared same =>
    exact ⟨.default, rfl, hsystem.trans same.symm, Or.inl rfl, rfl⟩
  | releaseCode file offset length same =>
    exact ⟨.default, rfl, hsystem.trans same.symm, Or.inl rfl, rfl⟩
  | checked b' file range operation same => exact ⟨.checked b', rfl, same, Or.inl rfl, rfl⟩
  | bare b' file range operation same valid => exact ⟨.bare b', rfl, same, Or.inr valid, rfl⟩
  | lock slot file range mode same vacant =>
    exact ⟨.checked (.system p), rfl, hsystem.trans same.symm, Or.inl rfl, vacant⟩
  | tryLock slot file range mode same vacant =>
    exact ⟨.checked (.system p), rfl, hsystem.trans same.symm, Or.inl rfl, vacant⟩
  | guard slot b' file wait range mode same vacant =>
    exact ⟨.checked b', rfl, same, Or.inl rfl, vacant⟩
  | unlock slot g same found =>
    refine ⟨.checked g.backend, ?_, same, Or.inl rfl, rfl⟩
    simp only [Step.enters?, found, Option.map_some]
  | drop slot g same found =>
    refine ⟨.checked g.backend, ?_, same, Or.inl rfl, rfl⟩
    simp only [Step.enters?, found, Option.map_some]

/-- **The ways in agree.**  Whatever happened before, a request that is made through a
    backend in any of these ways asks for the same, traces the same and tells the same
    outcome as the checked request to the backend. -/
theorem ways_in_agree (b : Backend Recorder p) (r : Request p) (replies : List Reply)
    (before : List (Move p)) (code : Int32) (step : Step Recorder p (Handle p))
    (way : WayIn (State.reached before code).slots b r step) :
    let shown := ((State.reached before code).advance ⟨step, replies⟩).1
    let run := (b.perform r).run (Scripted.fresh 0 replies)
    shown.seen = ⟨run.2.events, run.2.trace⟩ ∧ shown.answer.Tells run.1 := by
  intro shown run
  obtain ⟨route, entry, same, checks, place⟩ := way.exists_entry
  have hshown : shown = _ :=
    State.advance_of_entry (State.held_reached before code) entry place replies
  obtain ⟨rest, code', hrun⟩ := (Route.checked b).run_perform r (Scripted.fresh 0 replies)
  have hreaction := Route.reaction_eq_checked same checks replies
  have houtcome : run.1 = (route.reaction r replies).outcome := by
    rw [hreaction]
    exact congrArg Prod.fst hrun
  have hsystem : run.2 = _ := congrArg Prod.snd hrun
  rw [hshown, houtcome, hsystem, hreaction]
  exact ⟨rfl, hreaction ▸ step.tells_tells _⟩

/-- A guard that was made with a lock that went on in the background. -/
def guardMade : List (Move .win32) :=
  [⟨.lock "a" (.object 4) (.toEnd 5) .exclusive, [⟨0, Win32Error.ioPending⟩, ⟨1, 0⟩]⟩]

/-- To unlock it, where that goes on in the background too and finds nothing to unlock,
    asks for two things, traces one, and succeeds, as the checked release does. -/
theorem unlock_as_released :
    let s := State.reached guardMade Win32Error.accessDenied
    let shown :=
      (s.advance ⟨.unlock "a", [⟨0, Win32Error.ioPending⟩, ⟨0, Win32Error.notLocked⟩]⟩).1
    WayIn s.slots .lockFileEx ⟨.object 4, .toEnd 5, .release⟩ (.unlock "a") ∧
      shown.seen.events.length = 2 ∧ shown.seen.trace.length = 1 ∧
      shown.answer.Tells (.ok ()) := by
  intro s shown
  have way : WayIn s.slots .lockFileEx ⟨.object 4, .toEnd 5, .release⟩ (.unlock "a") :=
    .unlock "a" ⟨.lockFileEx, .object 4, .toEnd 5, .exclusive, true⟩ rfl rfl
  obtain ⟨hseen, htells⟩ :=
    ways_in_agree .lockFileEx ⟨.object 4, .toEnd 5, .release⟩
      [⟨0, Win32Error.ioPending⟩, ⟨0, Win32Error.notLocked⟩] guardMade Win32Error.accessDenied
      (.unlock "a") way
  refine ⟨way, ?_, ?_, htells⟩
  · rw [hseen]
    rfl
  · rw [hseen]
    rfl

/-! ### Histories -/

end FileLocks.Script

namespace FileLocks

variable {p : Platform}

/-- The guards were made alike: through one backend, for the same lock. -/
structure Guard.MadeAlike (g g' : Guard Recorder p) : Prop where
  backend : g.backend = g'.backend
  handle : g.handle = g'.handle
  range : g.range = g'.range
  mode : g.mode = g'.mode

namespace Step

/-- The slot whose guard a step is about. -/
def regards? : Step Recorder p (Handle p) → Option String
  | info slot => some slot
  | unlock slot => some slot
  | drop slot => some slot
  | _ => none

/-- The replies that a step reads. -/
def reads (slots : Slots Recorder p) (step : Step Recorder p (Handle p))
    (replies : List Reply) : List Reply :=
  match step.enters? slots with
  | some (route, r) => route.reads r replies
  | none => []

/-- The step finds the same in its slot: nothing if it is to fill it, else guards that
    were made alike. -/
structure FindsAlike (slots slots' : Slots Recorder p) (step : Step Recorder p (Handle p)) :
    Prop where
  vacant : ∀ slot, step.claims? = some slot →
    slots.find? slot = none ∧ slots'.find? slot = none
  alike : ∀ slot, step.regards? = some slot → ∃ g g', slots.find? slot = some g ∧
    slots'.find? slot = some g' ∧ g.MadeAlike g'

theorem FindsAlike.find?_eq {slots slots' : Slots Recorder p} {step : Step Recorder p (Handle p)}
    (h : step.FindsAlike slots slots') (held : slots.Held) (held' : slots'.Held) {slot : String}
    (regards : step.regards? = some slot) :
    ∃ g, slots.find? slot = some g ∧ slots'.find? slot = some g := by
  obtain ⟨g, g', hfound, hfound', halike⟩ := h.alike slot regards
  have hheld : g.held = g'.held := (held slot g hfound).trans (held' slot g' hfound').symm
  obtain ⟨backend, handle, range, mode, kept⟩ := g
  obtain ⟨backend', handle', range', mode', kept'⟩ := g'
  obtain ⟨rfl, rfl, rfl, rfl⟩ := halike
  obtain rfl := hheld
  exact ⟨_, hfound, hfound'⟩

theorem FindsAlike.enters?_eq {slots slots' : Slots Recorder p} {step : Step Recorder p (Handle p)}
    (h : step.FindsAlike slots slots') (held : slots.Held) (held' : slots'.Held) :
    step.enters? slots = step.enters? slots' := by
  cases step with
  | invoke | lock | tryLock | guard | info => rfl
  | unlock slot | drop slot =>
    obtain ⟨g, hfound, hfound'⟩ := h.find?_eq held held' rfl
    simp only [enters?, hfound, hfound']

theorem displaces?_eq_none {τ : Type} {slots : Slots Recorder p} {step : Step Recorder p τ}
    (vacant : ∀ slot, step.claims? = some slot → slots.find? slot = none) :
    step.displaces? slots = none := by
  unfold displaces?
  cases hclaims : step.claims? with
  | none => rfl
  | some slot => exact vacant slot hclaims

end Step

namespace Script

/-- To look at a guard asks for nothing and shows the guard. -/
theorem advance_info {s : State p} {slot : String} {g : Guard Recorder p}
    (found : s.slots.find? slot = some g) (replies : List Reply) :
    (s.advance ⟨.info slot, replies⟩).1 = ⟨.described g, ⟨[], []⟩⟩ := by
  simp only [State.advance, Step.perform, found]
  rfl

/-- **No history shows.**  A step that is taken after two histories shows the same in
    both, its answer as well as what is asked and traced, if it finds its slot alike
    and reads the same replies.  A conflict or an interruption is its answer after one
    request, whatever replies could follow. -/
theorem history_does_not_show :
    (∀ (before before' : List (Move p)) (code code' : Int32) (step : Step Recorder p (Handle p))
      (replies replies' : List Reply),
      let s := State.reached before code
      let s' := State.reached before' code'
      step.FindsAlike s.slots s'.slots →
      step.reads s.slots replies = step.reads s'.slots replies' →
      (s.advance ⟨step, replies⟩).1 = (s'.advance ⟨step, replies'⟩).1) ∧
    ∀ (before : List (Move p)) (code : Int32) (step : Step Recorder p (Handle p))
      (route : Route Recorder p) (r : Request p) (reply : Reply) (rest : List Reply)
      (f : Failure p),
      let s := State.reached before code
      let shown := (s.advance ⟨step, reply :: rest⟩).1
      step.enters? s.slots = some (route, r) →
      (∀ slot, step.claims? = some slot → s.slots.find? slot = none) →
      shown.seen.events ≠ [] →
      route.backend.refusal? reply = some f →
      f.kind = .interrupted ∨ f.kind = .wouldBlock →
      shown.answer.Tells (.error f) ∧ ∃ e, shown.seen.events = [e] := by
  constructor
  · intro before before' code code' step replies replies' s s' halike hreads
    have held : s.slots.Held := State.held_reached before code
    have held' : s'.slots.Held := State.held_reached before' code'
    have hentry := halike.enters?_eq held held'
    unfold Step.reads at hreads
    cases hstep : step.enters? s.slots with
    | none =>
      -- only a step that looks at a guard makes no request here
      cases step with
      | invoke | lock | tryLock | guard => cases hstep
      | info slot =>
        obtain ⟨g, hfound, hfound'⟩ := halike.find?_eq held held' rfl
        rw [advance_info hfound, advance_info hfound']
      | unlock slot | drop slot =>
        obtain ⟨g, hfound, -⟩ := halike.find?_eq held held' rfl
        simp only [Step.enters?, hfound] at hstep
        cases hstep
    | some entry =>
      obtain ⟨route, r⟩ := entry
      rw [← hentry, hstep] at hreads
      have hreaction : route.reaction r replies = route.reaction r replies' := by
        rw [← route.reaction_reads r replies, ← route.reaction_reads r replies']
        exact congrArg (route.reaction r) hreads
      have hplace := Step.displaces?_eq_none fun slot claims => (halike.vacant slot claims).1
      have hplace' := Step.displaces?_eq_none fun slot claims => (halike.vacant slot claims).2
      rw [State.advance_of_entry held hstep hplace,
        State.advance_of_entry held' (hentry ▸ hstep) hplace', hreaction]
  · intro before code step route r reply rest f s shown entry vacant hasks hrefusal hkind
    have hshown : shown = _ :=
      State.advance_of_entry (State.held_reached before code) entry
        (Step.displaces?_eq_none vacant) (reply :: rest)
    rw [hshown] at hasks ⊢
    rcases route.reaction_of_refusal r rest hrefusal hkind with hnone | ⟨houtcome, hone⟩
    · exact absurd hnone hasks
    · exact ⟨houtcome ▸ step.tells_tells _, hone⟩

/-- After different histories an interrupted wait shows the same, and is not waited for
    again though the next reply would grant the lock. -/
theorem interrupted_once :
    let step : Step Recorder .posix (Handle .posix) :=
      .lock "a" (.descriptor 3) ⟨0, 10⟩ .exclusive
    let s := State.reached [] 0
    let s' := State.reached
      [⟨.lock "b" (.descriptor 3) .wholeFile .shared, []⟩, ⟨.unlock "b", [⟨-1, Errno.ENOLCK⟩]⟩]
      Errno.EBADF
    (s.advance ⟨step, [⟨-1, Errno.EINTR⟩]⟩).1
        = (s'.advance ⟨step, [⟨-1, Errno.EINTR⟩, ⟨0, 0⟩]⟩).1 ∧
      (s'.advance ⟨step, [⟨-1, Errno.EINTR⟩, ⟨0, 0⟩]⟩).1.answer.Tells (.error ⟨Errno.EINTR⟩) ∧
      ∃ e, (s'.advance ⟨step, [⟨-1, Errno.EINTR⟩, ⟨0, 0⟩]⟩).1.seen.events = [e] := by
  intro step s s'
  refine ⟨?_, ?_⟩
  · apply history_does_not_show.1
    · constructor
      · intro slot claims
        cases claims
        exact ⟨rfl, rfl⟩
      · nofun
    · rfl
  · apply history_does_not_show.2 _ _ step (.checked (.system .posix)) _ _ _ ⟨Errno.EINTR⟩
    · rfl
    · intro slot claims
      cases claims
      rfl
    · exact List.cons_ne_nil _ _
    · rfl
    · exact Or.inl (by decide)

end Script

end FileLocks
