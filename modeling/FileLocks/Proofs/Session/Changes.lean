/-
  FileLocks/Proofs/Session/Changes.lean
  =====================================
  **What an action does to a session.**

  `Change` lists the cases: which requests an action makes of the kernel, and how
  the slots and the open files are afterwards.  `advance_change` says that there are
  no others.  What is to be shown of sessions is shown case by case from there; the first
  example is `Change.sound`, by which nothing that a session does spoils its kernel.
-/
import FileLocks.Proofs.Kernel.Descriptors
import FileLocks.Proofs.Kernel.Processes
import FileLocks.Proofs.Slots
import FileLocks.Session

namespace FileLocks

namespace Session

/-! ### Cases -/

/-- The kernel below is sound, the process locks in its own name, and every kept
    guard holds its lock. -/
structure Sound (s : Session) : Prop where
  kernel : s.process.kernel.Sound
  self : s.process.self = .process
  held : ∀ slot g, s.slots.find? slot = some g → g.held = true

/-- The process as it is in a forked child that has made a request and not yet
    ended. -/
def forked (s : Session) (invocation : Invocation Empty .posix Target) : Process :=
  ((invocation.mapFile s.resolve).perform.run { s.process with self := .child }).2

/-- The name that an action gives to an open file. -/
def Action.opens? : Action → Option String
  | openFile name _ => some name
  | dup _ copy => some copy
  | _ => none

/-- What an action does to a session. -/
inductive Change (s : Session) : Action → Answer → Session → Prop
  | invoked (invocation : Invocation Empty .posix Target) (o : Outcome .posix)
      (process : Process)
      (served : s.process.Served invocation.lockScope (invocation.mapFile s.resolve).asked o
        process) :
      Change s (.step (.invoke invocation)) (.step (.report (invocation.reports o)))
        { s with process }
  | granted (step : Step Empty .posix Target) (slot : String) (wait : Wait)
      (g : Guard Empty .posix) (process : Process) (claims : step.claims? = some slot)
      (vacant : s.slots.find? slot = none) (held : g.held = true)
      (served : s.process.Served g.backend.lockScope
        ⟨g.handle, g.range, .acquire wait g.mode⟩ (.ok ()) process) :
      Change s (.step step) (.step (.granted g))
        { s with process, slots := s.slots.insert slot g }
  /-- A guard is made and kept in place of another, which then is let go of. -/
  | displaced (step : Step Empty .posix Target) (slot : String) (wait : Wait)
      (g old : Guard Empty .posix) (between process : Process) (o : Outcome .posix)
      (claims : step.claims? = some slot) (found : s.slots.find? slot = some old)
      (held : g.held = true)
      (served : s.process.Served g.backend.lockScope
        ⟨g.handle, g.range, .acquire wait g.mode⟩ (.ok ()) between)
      (released : between.Served old.backend.lockScope old.releaseRequest o process) :
      Change s (.step step) (.step (.granted g))
        { s with process, slots := s.slots.insert slot g }
  | refused (step : Step Empty .posix Target) (slot : String) (scope : Posix.Scope)
      (r : Request .posix) (f : Failure .posix) (process : Process)
      (claims : step.claims? = some slot) (served : s.process.Served scope r (.error f) process) :
      Change s (.step step) (.step (.report (.outcome (.error f)))) { s with process }
  | looked (slot : String) (answer : Answer) : Change s (.step (.info slot)) answer s
  | freed (step : Step Empty .posix Target) (slot : String) (g : Guard Empty .posix)
      (answer : Answer) (o : Outcome .posix) (process : Process)
      (frees : step.frees? = some slot) (found : s.slots.find? slot = some g)
      (released : s.process.Served g.backend.lockScope g.releaseRequest o process) :
      Change s (.step step) answer { s with process, slots := s.slots.erase slot }
  /-- An empty slot is to be emptied. -/
  | vacant (step : Step Empty .posix Target) (slot : String) (answer : Answer)
      (frees : step.frees? = some slot) (found : s.slots.find? slot = none) :
      Change s (.step step) answer s
  | opened (action : Action) (name : String) (number : Int32) (kernel : Kernel)
      (opens : action.opens? = some name) (adds : s.process.kernel.Adds kernel number) :
      Change s action (.outcome (.ok ()))
        { s with process := { s.process with kernel }, files := s.files.insert name number }
  | closed (name : String) (number : Int32) (kernel : Kernel)
      (found : s.files.find? name = some number)
      (closes : s.process.kernel.close number = .ok kernel) :
      Change s (.close name) (.outcome (.ok ()))
        { s with process := { s.process with kernel }, files := s.files.erase name }
  | failed (action : Action) (name : String) (code : Int32)
      (about : action.opens? = some name ∨ action = .close name) :
      Change s action (.outcome (.error ⟨code⟩)) s
  | child (invocation : Invocation Empty .posix Target) (o : Outcome .posix)
      (served : ({ s.process with self := .child } : Process).Served invocation.lockScope
        (invocation.mapFile s.resolve).asked o (s.forked invocation)) :
      Change s (.child invocation) (.child o.toCode)
        { s with
          process :=
            { s.process with
              kernel :=
                { (s.forked invocation).kernel with
                  locks := (s.forked invocation).kernel.locks.dropOwner .child } } }

/-! ### All cases -/

variable {s : Session}

theorem served_invoke (hs : s.Sound) (invocation : Invocation Empty .posix Target) :
    ∃ o, (s.advance (.step (.invoke invocation))).1 = .step (.report (invocation.reports o)) ∧
      s.process.Served invocation.lockScope (invocation.mapFile s.resolve).asked o
        (s.advance (.step (.invoke invocation))).2.process := by
  obtain ⟨o, htold, hserved⟩ :=
    Process.served_invocation hs.kernel (invocation.mapFile s.resolve)
  rw [Invocation.reports_mapFile] at htold
  rw [Invocation.lockScope_mapFile] at hserved
  exact ⟨o, congrArg (fun r => Answer.step (.report r)) htold, hserved⟩

theorem served_child (hs : s.Sound) (invocation : Invocation Empty .posix Target) :
    ∃ o, (s.advance (.child invocation)).1 = .child o.toCode ∧
      ({ s.process with self := .child } : Process).Served invocation.lockScope
        (invocation.mapFile s.resolve).asked o (s.forked invocation) := by
  obtain ⟨o, htold, hserved⟩ :=
    Process.served_invocation (p := { s.process with self := .child }) hs.kernel
      (invocation.mapFile s.resolve)
  rw [Invocation.reports_mapFile] at htold
  rw [Invocation.lockScope_mapFile] at hserved
  refine ⟨o, ?_, hserved⟩
  rw [← invocation.toCode_reports o, ← htold]
  rfl

theorem advance_step (s : Session) (step : Step Empty .posix Target) :
    s.advance (.step step)
      = (.step (((step.mapFile s.resolve).perform s.slots).run s.process).1.1,
        { s with
          process := (((step.mapFile s.resolve).perform s.slots).run s.process).2
          slots := (((step.mapFile s.resolve).perform s.slots).run s.process).1.2 }) :=
  rfl

theorem change_of_claims (hs : s.Sound) {step : Step Empty .posix Target} {slot : String}
    (claims : step.claims? = some slot) :
    Change s (.step step) (s.advance (.step step)).1 (s.advance (.step step)).2 := by
  have hclaims : (step.mapFile s.resolve).claims? = some slot :=
    (step.claims?_mapFile s.resolve).trans claims
  obtain ⟨b, handle, wait, range, mode, hperform⟩ :=
    Step.perform_of_claims (σ := Process) s.slots hclaims
  obtain ⟨o, hanswer, hserved⟩ :=
    Process.served_acquire hs.kernel b handle wait range mode
  have hrun : ((step.mapFile s.resolve).perform s.slots).run s.process
      = (Step.keep s.slots slot
          ((Guard.acquire b handle wait range mode).run s.process).1).run
          ((Guard.acquire b handle wait range mode).run s.process).2 := by
    rw [hperform]
    rfl
  generalize ((Guard.acquire b handle wait range mode).run s.process).2 = between at *
  rw [advance_step, hrun, hanswer]
  cases o with
  | error f => exact .refused step slot _ _ f between claims hserved
  | ok =>
    have hkept : (⟨b, handle, range, mode, true⟩ : Guard Empty .posix).held = true := rfl
    cases hfound : s.slots.find? slot with
    | none =>
      simp only [Step.keep, Except.map, hfound]
      exact .granted step slot wait ⟨b, handle, range, mode, true⟩ between claims hfound hkept
        hserved
    | some old =>
      have hsound := hserved.sound hs.kernel
      obtain ⟨o', hreleased⟩ := Process.served_drop hsound (hs.held slot old hfound)
      simp only [Step.keep, Except.map, hfound]
      exact .displaced step slot wait ⟨b, handle, range, mode, true⟩ old between _ o' claims
        hfound hkept hserved hreleased

theorem change_of_frees (hs : s.Sound) {step : Step Empty .posix Target} {slot : String}
    (frees : step.frees? = some slot) :
    Change s (.step step) (s.advance (.step step)).1 (s.advance (.step step)).2 := by
  cases hfound : s.slots.find? slot with
  | none =>
    cases step with
    | unlock =>
      cases frees
      simp only [advance, Step.mapFile, Step.perform, hfound]
      exact .vacant _ slot _ rfl hfound
    | drop =>
      cases frees
      simp only [advance, Step.mapFile, Step.perform, hfound]
      exact .vacant _ slot _ rfl hfound
    | invoke | lock | tryLock | guard | info => cases frees
  | some g =>
    cases step with
    | unlock =>
      cases frees
      simp only [advance, Step.mapFile, Step.perform, hfound]
      exact .freed _ slot g _ _ _ rfl hfound (Process.served_unlock hs.kernel g)
    | drop =>
      cases frees
      obtain ⟨o, hreleased⟩ := Process.served_drop hs.kernel (hs.held slot g hfound)
      simp only [advance, Step.mapFile, Step.perform, hfound]
      exact .freed _ slot g _ o _ rfl hfound hreleased
    | invoke | lock | tryLock | guard | info => cases frees

/-- There are no other cases. -/
theorem advance_change (hs : s.Sound) (action : Action) :
    Change s action (s.advance action).1 (s.advance action).2 := by
  cases action with
  | step step =>
    cases step with
    | invoke invocation =>
      obtain ⟨o, hanswer, hserved⟩ := served_invoke hs invocation
      rw [hanswer]
      exact .invoked invocation o _ hserved
    | lock | tryLock | guard => exact change_of_claims hs rfl
    | unlock | drop => exact change_of_frees hs rfl
    | info slot =>
      simp only [advance, Step.mapFile, Step.perform]
      cases s.slots.find? slot with
      | none => exact .looked slot _
      | some g => exact .looked slot _
  | openFile name access =>
    simp only [advance]
    cases h : s.process.kernel.openFile access with
    | error code => exact .failed _ name code (Or.inl rfl)
    | ok opened => exact .opened _ name opened.1 opened.2 rfl (Kernel.adds_openFile h)
  | dup name copy =>
    simp only [advance]
    cases hfound : s.files.find? name with
    | none => exact .failed _ copy _ (Or.inl rfl)
    | some number =>
      simp only [Option.elim]
      cases h : s.process.kernel.dup number with
      | error code => exact .failed _ copy code (Or.inl rfl)
      | ok opened => exact .opened _ copy opened.1 opened.2 rfl (Kernel.adds_dup h)
  | close name =>
    simp only [advance]
    cases hfound : s.files.find? name with
    | none => exact .failed _ name _ (Or.inr rfl)
    | some number =>
      simp only [Option.elim]
      cases h : s.process.kernel.close number with
      | error code => exact .failed _ name code (Or.inr rfl)
      | ok kernel => exact .closed name number kernel hfound h
  | child invocation =>
    obtain ⟨o, hanswer, hserved⟩ := served_child hs invocation
    rw [hanswer]
    exact .child invocation o hserved

end Session

end FileLocks
