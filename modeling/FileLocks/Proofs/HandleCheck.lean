/-
  FileLocks/Proofs/HandleCheck.lean
  =================================
  **The check of the handle is a shortcut.**

  A handle that cannot name an open file is refused before anybody is asked, be the rest
  of the request as it may; with any other handle the check makes no difference
  (`Validates.perform_of_isValid`).  This holds on every system and for every backend.

  On a POSIX kernel the check makes no difference at all: what it refuses the kernel
  would refuse too, with the same code and before it looks at anything else.
-/
import FileLocks.Proofs.Session.Outcomes
import FileLocks.Script

namespace FileLocks

variable {β σ : Type} {p : Platform}

/-! ### The handles that are refused -/

theorem Handle.isValid_posix_eq_false_iff (h : Handle .posix) : h.isValid = false ↔ h.raw < 0 := by
  cases h with
  | descriptor number =>
    simp only [isValid, raw, decide_eq_false_iff_not, Int32.le_iff_toInt_le, Int32.toInt_zero,
      Int.not_le]

theorem Handle.isValid_win32_eq_false_iff (h : Handle .win32) :
    h.isValid = false ↔ h.raw = 0 ∨ h.raw = -1 := by
  cases h with
  | object value =>
    have hnull : value.toInt = 0 ↔ value = 0 := by
      rw [← Int64.toInt_inj]
      rfl
    have hminus : value.toInt = -1 ↔ value = -1 := by
      rw [← Int64.toInt_inj]
      rfl
    simp only [isValid, raw, hnull, hminus, Bool.and_eq_false_iff, bne_eq_false_iff_eq]

/-! ### Steps that check -/

namespace Step

/-- The ways to make a request through a backend that have its handle checked first.  To let
    go of a guard is not among them: its handle was checked when the guard was made. -/
inductive Validates : Step β p (Handle p) → Backend β p → Request p → Prop
  | default (file : Handle p) (range : ByteRange) (operation : Operation) :
      Validates (.invoke (.request .default file range operation)) (.system p)
        ⟨file, range, operation⟩
  | checked (b : Backend β p) (file : Handle p) (range : ByteRange) (operation : Operation) :
      Validates (.invoke (.request (.checked b) file range operation)) b ⟨file, range, operation⟩
  | acquireCode (file : Handle p) (mayBlock : Bool) (offset length : Int64)
      (wantsShared : Bool) :
      Validates (.invoke (.acquireCode file mayBlock offset length wantsShared)) (.system p)
        ⟨file, ⟨offset, length⟩, .acquire (.ofBlocking mayBlock) (.ofShared wantsShared)⟩
  | releaseCode (file : Handle p) (offset length : Int64) :
      Validates (.invoke (.releaseCode file offset length)) (.system p)
        ⟨file, ⟨offset, length⟩, .release⟩
  | lock (slot : String) (file : Handle p) (range : ByteRange) (mode : Mode) :
      Validates (.lock slot file range mode) (.system p) ⟨file, range, .acquire .blocking mode⟩
  | tryLock (slot : String) (file : Handle p) (range : ByteRange) (mode : Mode) :
      Validates (.tryLock slot file range mode) (.system p)
        ⟨file, range, .acquire .nonblocking mode⟩
  | guard (slot : String) (b : Backend β p) (file : Handle p) (wait : Wait) (range : ByteRange)
      (mode : Mode) :
      Validates (.guard slot b file wait range mode) b ⟨file, range, .acquire wait mode⟩

variable {step : Step β p (Handle p)} {b : Backend β p} {r : Request p}

theorem Validates.exists_entry (h : step.Validates b r) (slots : Slots β p) :
    ∃ route : Route β p, step.enters? slots = some (route, r) ∧ route.checks = true ∧
      route.backend = b := by
  cases h <;> exact ⟨_, rfl, rfl, rfl⟩

theorem Validates.frees?_eq_none (h : step.Validates b r) : step.frees? = none := by
  cases h <;> rfl

variable [System p σ] [CustomBackend p β σ]

theorem Validates.perform_eq (h : step.Validates b r) (slots : Slots β p) :
    step.perform (σ := σ) slots = do
      let o ← b.perform r
      step.clearPlace slots o
      return (step.tells o, step.keeps slots o) := by
  obtain ⟨route, hentry, hchecks, rfl⟩ := h.exists_entry slots
  rw [Step.perform_eq_of_frees?_eq_none h.frees?_eq_none hentry, Route.perform_of_checks hchecks]

/-- An invalid handle is refused, and nothing else happens. -/
theorem Validates.perform_of_not_isValid (h : step.Validates b r) (slots : Slots β p)
    (invalid : r.handle.isValid = false) :
    step.perform (σ := σ) slots = pure (step.tells (.error .invalidHandle), slots) := by
  rw [h.perform_eq slots, Backend.perform_of_not_isValid b invalid, pure_bind]
  simp only [clearPlace, pure_bind, keeps, h.frees?_eq_none, Option.map_none, Option.getD_none]

/-- A valid handle is handed on with the rest of the request. -/
theorem Validates.perform_of_isValid (h : step.Validates b r) (slots : Slots β p)
    (valid : r.handle.isValid = true) :
    step.perform (σ := σ) slots = do
      let o ← b.submit r
      step.clearPlace slots o
      return (step.tells o, step.keeps slots o) := by
  rw [h.perform_eq slots, Backend.perform_of_isValid b valid]

/-- The same request, without a guard and straight to the backend. -/
def straight {τ : Type} (b : Backend β p) (file : τ) (r : Request p) : Step β p τ :=
  .invoke (.request (.bare b) file r.range r.operation)

end Step

/-! ### Scripts -/

namespace Script.State

variable {step : Step Recorder p (Handle p)} {b : Backend Recorder p} {r : Request p}

theorem advance_of_not_isValid (h : step.Validates b r) (s : State p)
    (invalid : r.handle.isValid = false) (replies : List Reply) :
    s.advance ⟨step, replies⟩ = (⟨step.tells (.error .invalidHandle), ⟨[], []⟩⟩, s) := by
  simp only [advance, h.perform_of_not_isValid s.slots invalid]
  rfl

/-- With a valid handle the step shows what the backend does, as the same request straight
    to the backend would, and leaves the same code. -/
theorem advance_of_isValid (h : step.Validates b r) {s : State p}
    (valid : r.handle.isValid = true) (place : step.displaces? s.slots = none)
    (replies : List Reply) :
    ∃ o seen code,
      s.advance ⟨.straight b r.handle r, replies⟩
        = (⟨.report (.outcome o), seen⟩, ⟨code, s.slots⟩) ∧
      s.advance ⟨step, replies⟩ = (⟨step.tells o, seen⟩, ⟨code, step.keeps s.slots o⟩) := by
  let run := (b.submit r).run (Scripted.fresh s.lastCode replies)
  refine ⟨run.1, ⟨run.2.events, run.2.trace⟩, run.2.lastCode, rfl, ?_⟩
  simp only [advance, h.perform_of_isValid s.slots valid,
    Step.clearPlace_of_displaces?_eq_none place]
  rfl

end Script.State

/-! ### Sessions -/

namespace Process

/-- A process sees and leaves the same with the check as without. -/
theorem perform_eq_submit (process : Process)
    (numbers : ∀ d ∈ process.kernel.descriptors, 0 ≤ d.number) (b : Backend Empty .posix)
    (r : Request .posix) :
    ((b.perform r).run process).1 = ((b.submit r).run process).1 ∧
      ((b.perform r).run process).2.kernel = ((b.submit r).run process).2.kernel := by
  have hchecked := answered_perform numbers b r
  have hbare := answered_submit process b r
  exact ⟨hchecked.outcome_eq.trans hbare.outcome_eq.symm,
    hchecked.kernel_eq.trans hbare.kernel_eq.symm⟩

end Process

theorem Route.lockScope_backend (route : Route Empty .posix) :
    route.backend.lockScope = route.lockScope := by
  cases route <;> rfl

namespace Session

variable {s : Session}

theorem Orderly.step_eq_straight (h : s.Orderly) {step : Step Empty .posix Target}
    {b : Backend Empty .posix} {r : Request .posix}
    (validates : (step.mapFile s.resolve).Validates b r) :
    ∃ o, (s.advance (.step (.straight b (.handle r.handle) r))).1
        = .step (.report (.outcome o)) ∧
      (s.advance (.step step)).1 = .step ((step.mapFile s.resolve).tells o) ∧
      (s.clears? (.step step) = none → (s.advance (.step step)).2.process.kernel
        = (s.advance (.step (.straight b (.handle r.handle) r))).2.process.kernel) := by
  obtain ⟨route, hentry, -, rfl⟩ := validates.exists_entry s.slots
  have hdemand : s.demand? (.step step) = some ⟨.process, route.lockScope, r⟩ := by
    rw [demand?, hentry, Option.map_some]
  have hstraight : s.demand? (.step (.straight route.backend (.handle r.handle) r))
      = some ⟨.process, route.lockScope, r⟩ := by
    rw [← route.lockScope_backend]
    rfl
  refine ⟨_, h.answer_advance hstraight, h.answer_advance hdemand, ?_⟩
  intro hplace
  rw [h.kernel_step hdemand hplace, h.kernel_step hstraight rfl]

theorem Orderly.child_eq_straight (h : s.Orderly) (invocation : Invocation Empty .posix Target) :
    let b := (invocation.mapFile s.resolve).route.backend
    let r := (invocation.mapFile s.resolve).asked
    s.advance (.child invocation)
      = s.advance (.child (.request (.bare b) (.handle r.handle) r.range r.operation)) := by
  intro b r
  have hscope : b.lockScope = invocation.lockScope := by
    rw [Route.lockScope_backend]
    exact invocation.lockScope_mapFile s.resolve
  have hdemand : s.demand? (.child (.request (.bare b) (.handle r.handle) r.range r.operation))
      = some ⟨.child, invocation.lockScope, r⟩ := by
    rw [← hscope]
    rfl
  rw [h.advance_child invocation rfl, h.advance_child _ hdemand]

end Session

/-- **The check of the handle is a shortcut.**  It refuses the negative descriptors and, on
    Windows, the null handle and `-1`, in each case with the code for an invalid handle.

    On any system and with backends of any kind, a step that checks an invalid handle fails
    with that code and does nothing else, whatever range it is about, and a step that checks
    a valid handle does what the backend does.  In a script the former therefore shows no
    call and no trace and leaves everything as it was, and the latter shows what the same
    request straight to the backend shows.

    On a POSIX kernel, in every state that a session reaches, a request comes to the same
    and leaves the same with the check as without it, for any handle and any process. -/
theorem handle_check_is_a_shortcut :
    ((∀ h : Handle .posix, h.isValid = false ↔ h.raw < 0) ∧
      (∀ h : Handle .win32, h.isValid = false ↔ h.raw = 0 ∨ h.raw = -1) ∧
      (∀ p, (Failure.invalidHandle : Failure p).kind = .invalidHandle) ∧
      (Failure.invalidHandle : Failure .posix).code = 9 ∧
      (Failure.invalidHandle : Failure .win32).code = 6) ∧
    (∀ (p : Platform) (β σ : Type) [System p σ] [CustomBackend p β σ] (slots : Slots β p)
      (step : Step β p (Handle p)) (b : Backend β p) (r : Request p),
      step.Validates b r →
      (r.handle.isValid = false →
        step.perform (σ := σ) slots = pure (step.tells (.error .invalidHandle), slots)) ∧
      (r.handle.isValid = true →
        step.perform (σ := σ) slots = do
          let o ← b.submit r
          step.clearPlace slots o
          return (step.tells o, step.keeps slots o))) ∧
    (∀ (p : Platform) (s : Script.State p) (step : Step Recorder p (Handle p))
      (b : Backend Recorder p) (r : Request p) (replies : List Reply),
      step.Validates b r →
      (r.handle.isValid = false →
        s.advance ⟨step, replies⟩ = (⟨step.tells (.error .invalidHandle), ⟨[], []⟩⟩, s)) ∧
      (r.handle.isValid = true → step.displaces? s.slots = none → ∃ o seen code,
        s.advance ⟨.straight b r.handle r, replies⟩
          = (⟨.report (.outcome o), seen⟩, ⟨code, s.slots⟩) ∧
        s.advance ⟨step, replies⟩ = (⟨step.tells o, seen⟩, ⟨code, step.keeps s.slots o⟩))) ∧
    ∀ before : List Session.Action,
      let s := (Session.initial.run before).2
      (∀ (self : Owner) (b : Backend Empty .posix) (r : Request .posix),
        let process := { s.process with self }
        ((b.perform r).run process).1 = ((b.submit r).run process).1 ∧
        ((b.perform r).run process).2.kernel = ((b.submit r).run process).2.kernel) ∧
      (∀ (step : Step Empty .posix Target) (b : Backend Empty .posix) (r : Request .posix),
        (step.mapFile s.resolve).Validates b r →
        ∃ o, (s.advance (.step (.straight b (.handle r.handle) r))).1
            = .step (.report (.outcome o)) ∧
          (s.advance (.step step)).1 = .step ((step.mapFile s.resolve).tells o) ∧
          (s.clears? (.step step) = none → (s.advance (.step step)).2.process.kernel
            = (s.advance (.step (.straight b (.handle r.handle) r))).2.process.kernel)) ∧
      ∀ invocation : Invocation Empty .posix Target,
        let b := (invocation.mapFile s.resolve).route.backend
        let r := (invocation.mapFile s.resolve).asked
        s.advance (.child invocation)
          = s.advance (.child (.request (.bare b) (.handle r.handle) r.range r.operation)) := by
  refine ⟨⟨Handle.isValid_posix_eq_false_iff, Handle.isValid_win32_eq_false_iff,
    fun _ => Failure.kind_invalidHandle, rfl, rfl⟩, ?_, ?_, ?_⟩
  · intro p β σ _ _ slots step b r validates
    exact ⟨validates.perform_of_not_isValid slots, validates.perform_of_isValid slots⟩
  · intro p s step b r replies validates
    constructor
    · intro invalid
      exact Script.State.advance_of_not_isValid validates s invalid replies
    · intro valid place
      exact Script.State.advance_of_isValid validates valid place replies
  · intro before s
    have h : s.Orderly := (Session.sound_run_initial before).orderly
    refine ⟨?_, ?_, ?_⟩
    · intro self b r process
      exact process.perform_eq_submit h.numbers b r
    · intro step b r validates
      exact h.step_eq_straight validates
    · intro invocation
      exact h.child_eq_straight invocation

/-- The null handle comes before a range that nobody accepts, a descriptor that nobody gives
    out comes to the same with the check as without, and a lock violation is shown alike
    through a reference and straight from the backend. -/
theorem null_handle_before_range :
    let s : Script.State .win32 := ⟨Win32Error.accessDenied, .empty⟩
    let null : Request .win32 := ⟨.object 0, ⟨-1, 5⟩, .acquire .nonblocking .shared⟩
    let taken : Request .win32 := ⟨.object 4, ⟨5, 1⟩, .acquire .blocking .shared⟩
    let early : Step Recorder .win32 (Handle .win32) :=
      .tryLock "b" (.object 0) ⟨-1, 5⟩ .shared
    let checked : Step Recorder .win32 (Handle .win32) :=
      .guard "b" (.reference .lockFileEx) (.object 4) .blocking ⟨5, 1⟩ .shared
    let violation : List Reply := [⟨0, Win32Error.lockViolation⟩]
    let session := (Session.initial.run [.openFile "a" .readOnly]).2
    let negative : Request .posix := ⟨.descriptor (-3), ⟨-1, 5⟩, .release⟩
    let raw : Step Empty .posix Target := .invoke (.releaseCode (.handle (.descriptor (-3))) (-1) 5)
    s.advance ⟨early, []⟩ = (⟨.report (.outcome (.error ⟨6⟩)), ⟨[], []⟩⟩, s) ∧
      (s.advance ⟨.straight .lockFileEx (.object 0) null, []⟩).1.answer
        = .report (.outcome (.error ⟨87⟩)) ∧
      (s.advance ⟨checked, violation⟩).1
        = (s.advance ⟨.straight (.reference .lockFileEx) (.object 4) taken, violation⟩).1 ∧
      (session.advance (.step raw)).1 = .step (.report (.code 9)) ∧
      (session.advance (.step raw)).2.process.kernel
        = (session.advance (.step
            (.straight (.fcntl .process) (.handle (.descriptor (-3))) negative))).2.process.kernel := by
  intro s null taken early checked violation session negative raw
  obtain ⟨-, -, hscripts, hsessions⟩ := handle_check_is_a_shortcut
  have hnull : early.Validates .lockFileEx null :=
    .tryLock "b" (.object 0) ⟨-1, 5⟩ .shared
  have hchecked : checked.Validates (.reference .lockFileEx) taken :=
    .guard "b" (.reference .lockFileEx) (.object 4) .blocking ⟨5, 1⟩ .shared
  have hraw : (raw.mapFile session.resolve).Validates (.fcntl .process) negative :=
    .releaseCode (.descriptor (-3)) (-1) 5
  obtain ⟨hinvalid, -⟩ := hscripts _ s _ _ null [] hnull
  obtain ⟨-, hvalid⟩ := hscripts _ s _ _ taken violation hchecked
  obtain ⟨o, seen, code, hstraight, hguard⟩ := hvalid rfl rfl
  obtain ⟨-, hsteps, -⟩ := hsessions [.openFile "a" .readOnly]
  obtain ⟨o', hbare, hshown, hkernel⟩ := hsteps raw _ negative hraw
  refine ⟨hinvalid rfl, rfl, ?_, ?_, hkernel rfl⟩
  · have hviolation : (s.advance ⟨.straight (.reference .lockFileEx) (.object 4) taken,
        violation⟩).1.answer = .report (.outcome (.error ⟨Win32Error.lockViolation⟩)) := rfl
    rw [hstraight] at hviolation
    cases hviolation
    rw [hguard, hstraight]
    rfl
  · rw [hshown]
    cases hbare
    rfl

end FileLocks
