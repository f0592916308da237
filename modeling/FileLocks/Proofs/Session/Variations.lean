/-
  FileLocks/Proofs/Session/Variations.lean
  ========================================
  **Two sessions that ask alike.**

  A session may be varied: an action asks with the other policy for waiting, or writes
  its range in another way.  As long as the kernel reads each range as the same span, the
  varied session runs beside the first in lockstep (`Like.advance`).  The kernels stay
  equal.  Answers differ in how a conflict is reported and in the ranges that guards
  show, and in nothing else.

  How two ranges may differ is a parameter `E` of all this, of which only `SameSpans`
  is asked.
-/
import Mathlib.Data.List.Forall2
import FileLocks.Proofs.Session.Demands

namespace FileLocks

/-! ### Variations -/

/-- Another policy for each policy, and another range for each range. -/
structure Variation where
  waits : Wait → Wait
  ranges : ByteRange → ByteRange

variable {β : Type} {p : Platform} {τ υ : Type}

def Operation.mapWait (waits : Wait → Wait) : Operation → Operation
  | acquire wait mode => acquire (waits wait) mode
  | release => release

def Request.vary (v : Variation) (r : Request p) : Request p :=
  ⟨r.handle, v.ranges r.range, r.operation.mapWait v.waits⟩

namespace Invocation

def range : Invocation β p τ → ByteRange
  | request _ _ range _ => range
  | acquireCode _ _ offset length _ => ⟨offset, length⟩
  | releaseCode _ offset length => ⟨offset, length⟩

def vary (v : Variation) : Invocation β p τ → Invocation β p τ
  | request route file range operation =>
    request route file (v.ranges range) (operation.mapWait v.waits)
  | acquireCode file mayBlock offset length wantsShared =>
    acquireCode file (v.waits (.ofBlocking mayBlock) = .blocking)
      (v.ranges ⟨offset, length⟩).offset (v.ranges ⟨offset, length⟩).length wantsShared
  | releaseCode file offset length =>
    releaseCode file (v.ranges ⟨offset, length⟩).offset (v.ranges ⟨offset, length⟩).length

theorem ofBlocking_decide (wait : Wait) : Wait.ofBlocking (wait = .blocking) = wait := by
  cases wait <;> rfl

@[simp] theorem route_vary (v : Variation) (invocation : Invocation β p τ) :
    (invocation.vary v).route = invocation.route := by
  cases invocation <;> rfl

@[simp] theorem asked_vary (v : Variation) (invocation : Invocation β p (Handle p)) :
    (invocation.vary v).asked = invocation.asked.vary v := by
  cases invocation with
  | request | releaseCode => rfl
  | acquireCode =>
    simp only [vary, asked, ofBlocking_decide]
    rfl

@[simp] theorem vary_id (invocation : Invocation β p τ) :
    invocation.vary ⟨id, id⟩ = invocation := by
  cases invocation with
  | request route file range operation => cases operation <;> rfl
  | acquireCode file mayBlock => cases mayBlock <;> rfl
  | releaseCode => rfl

theorem mapFile_vary (v : Variation) (f : τ → υ) (invocation : Invocation β p τ) :
    (invocation.vary v).mapFile f = (invocation.mapFile f).vary v := by
  cases invocation <;> rfl

end Invocation

namespace Step

/-- To make a guard through the default backend, with a given policy. -/
def lockWith (wait : Wait) (slot : String) (file : τ) (range : ByteRange) (mode : Mode) :
    Step β p τ :=
  match wait with
  | .blocking => lock slot file range mode
  | .nonblocking => tryLock slot file range mode

section LockWith

variable (wait : Wait) (slot : String) (range : ByteRange) (mode : Mode)

@[simp] theorem mapFile_lockWith (f : τ → υ) (file : τ) :
    (lockWith wait slot file range mode : Step β p τ).mapFile f
      = lockWith wait slot (f file) range mode := by
  cases wait <;> rfl

@[simp] theorem claims?_lockWith (file : τ) :
    (lockWith wait slot file range mode : Step β p τ).claims? = some slot := by
  cases wait <;> rfl

@[simp] theorem frees?_lockWith (file : τ) :
    (lockWith wait slot file range mode : Step β p τ).frees? = none := by
  cases wait <;> rfl

@[simp] theorem makes?_lockWith (file : Handle p) :
    (lockWith wait slot file range mode : Step β p (Handle p)).makes?
      = some ⟨.system p, file, range, mode, true⟩ := by
  cases wait <;> rfl

@[simp] theorem enters?_lockWith (file : Handle p) (slots : Slots β p) :
    (lockWith wait slot file range mode : Step β p (Handle p)).enters? slots
      = some (.checked (.system p), ⟨file, range, .acquire wait mode⟩) := by
  cases wait <;> rfl

theorem tells_lockWith_error (file : Handle p) (f : Failure p) :
    (lockWith wait slot file range mode : Step β p (Handle p)).tells (.error f)
      = .report (.outcome (.error f)) := by
  cases wait <;> rfl

theorem tells_lockWith_ok (file : Handle p) :
    (lockWith wait slot file range mode : Step β p (Handle p)).tells (.ok ())
      = .granted ⟨.system p, file, range, mode, true⟩ := by
  cases wait <;> rfl

end LockWith

def range? : Step β p τ → Option ByteRange
  | invoke invocation => some invocation.range
  | lock _ _ range _ => some range
  | tryLock _ _ range _ => some range
  | guard _ _ _ _ range _ => some range
  | _ => none

def vary (v : Variation) : Step β p τ → Step β p τ
  | invoke invocation => invoke (invocation.vary v)
  | lock slot file range mode => lockWith (v.waits .blocking) slot file (v.ranges range) mode
  | tryLock slot file range mode =>
    lockWith (v.waits .nonblocking) slot file (v.ranges range) mode
  | guard slot backend file wait range mode =>
    guard slot backend file (v.waits wait) (v.ranges range) mode
  | step => step

theorem mapFile_vary (v : Variation) (f : τ → υ) (step : Step β p τ) :
    (step.vary v).mapFile f = (step.mapFile f).vary v := by
  cases step with
  | invoke invocation => exact congrArg invoke (invocation.mapFile_vary v f)
  | lock | tryLock => exact mapFile_lockWith ..
  | guard | info | unlock | drop => rfl

@[simp] theorem claims?_vary (v : Variation) (step : Step β p τ) :
    (step.vary v).claims? = step.claims? := by
  cases step with
  | lock | tryLock => exact claims?_lockWith ..
  | invoke | guard | info | unlock | drop => rfl

@[simp] theorem frees?_vary (v : Variation) (step : Step β p τ) :
    (step.vary v).frees? = step.frees? := by
  cases step with
  | lock | tryLock => exact frees?_lockWith ..
  | invoke | guard | info | unlock | drop => rfl

end Step

/-! ### How a conflict is reported -/

namespace Kernel

/-- The code of a failure when waits are others: a conflict is reported as the policy
    demands, and nothing else is changed. -/
def conflictAs (waits : Wait → Wait) (code : Int32) : Int32 :=
  if code = conflictCode .blocking then conflictCode (waits .blocking)
  else if code = conflictCode .nonblocking then conflictCode (waits .nonblocking)
  else code

theorem conflictAs_conflictCode (waits : Wait → Wait) (wait : Wait) :
    conflictAs waits (conflictCode wait) = conflictCode (waits wait) := by
  cases wait <;> rfl

/-- Who asks as before is answered as before. -/
@[simp] theorem conflictAs_id (code : Int32) : conflictAs id code = code := by
  unfold conflictAs
  split
  · next h => exact h.symm
  · split
    · next h => exact h.symm
    · rfl

end Kernel

open Kernel (conflictAs)

def Outcome.mapWait (waits : Wait → Wait) : Outcome .posix → Outcome .posix
  | .ok () => .ok ()
  | .error f => .error ⟨conflictAs waits f.code⟩

theorem Outcome.toCode_mapWait (waits : Wait → Wait) (o : Outcome .posix) :
    (o.mapWait waits).toCode = conflictAs waits o.toCode := by
  cases o <;> rfl

def Report.mapWait (waits : Wait → Wait) : Report .posix → Report .posix
  | .outcome o => .outcome (o.mapWait waits)
  | .code c => .code (conflictAs waits c)

@[simp] theorem Report.mapWait_id (r : Report .posix) : r.mapWait id = r := by
  cases r with
  | outcome o =>
    cases o with
    | ok => rfl
    | error f => simp only [mapWait, Outcome.mapWait, Kernel.conflictAs_id]
  | code c => simp only [mapWait, Kernel.conflictAs_id]

/-! ### Requests that are read alike -/

/-- The kernel reads the two requests alike, up to the policy. -/
structure Request.Like (waits : Wait → Wait) (r r' : Request .posix) : Prop where
  handle : r'.handle = r.handle
  span : r'.range.span = r.range.span
  operation : r'.operation = r.operation.mapWait waits

/-- The processes are the same but for the code of the last failed call. -/
structure Process.Like (q q' : Process) : Prop where
  kernel : q'.kernel = q.kernel
  self : q'.self = q.self

/-- The kernel answers alike what it reads alike. -/
theorem Kernel.answer_like (k : Kernel) (self : Owner) (scope : Posix.Scope) {waits : Wait → Wait}
    {r r' : Request .posix} (h : r.Like waits r') :
    k.answer self (Posix.encode scope r')
      = (k.answer self (Posix.encode scope r)).mapError (conflictAs waits) := by
  rw [answer_encode, answer_encode, h.handle, h.span, h.operation]
  cases k.descriptorOf? r.handle with
  | none => rfl
  | some d =>
    cases hspan : r.range.span with
    | error code =>
      rcases ByteRange.span_eq_error hspan with ⟨rfl, -⟩ | ⟨rfl, -⟩ <;> rfl
    | ok s =>
      obtain ⟨handle, range, operation⟩ := r
      cases operation with
      | release => rfl
      | acquire wait mode =>
        -- the policy is looked at last, after access and conflicts
        simp only [Operation.mapWait, serve]
        cases d.access.allows mode with
        | false => rfl
        | true =>
          cases k.locks.conflicts (ownerOf self d scope) mode s with
          | true => exact congrArg Except.error (conflictAs_conflictCode waits wait).symm
          | false => rfl

namespace Process

variable {q q' : Process} {waits : Wait → Wait} {r r' : Request .posix}

/-- Two requests came to the same, up to how a conflict is reported. -/
structure EndsAlike (waits : Wait → Wait) (ended ended' : Outcome .posix × Process) : Prop where
  outcome : ended'.1 = ended.1.mapWait waits
  process : ended.2.Like ended'.2

theorem Like.submit (h : q.Like q') (hr : r.Like waits r') : ∀ b : Backend Empty .posix,
    EndsAlike waits ((b.submit r).run q) ((b.submit r').run q')
  | .fcntl scope => by
    have hanswer := q.kernel.answer_like q.self scope hr
    have hrun := run_submit scope r q
    have hrun' := run_submit scope r' q'
    rw [h.kernel, h.self, hanswer] at hrun'
    show EndsAlike waits ((Posix.submit scope r).run q) ((Posix.submit scope r').run q')
    rw [hrun, hrun']
    cases q.kernel.answer q.self (Posix.encode scope r) with
    | ok kernel => exact ⟨rfl, rfl, rfl⟩
    | error code => exact ⟨rfl, rfl, rfl⟩
  | .custom own => own.elim
  | .reference target => submit h hr target

theorem Like.perform (h : q.Like q') (hr : r.Like waits r') (b : Backend Empty .posix) :
    EndsAlike waits ((b.perform r).run q) ((b.perform r').run q') := by
  cases hvalid : r.handle.isValid with
  | true =>
    rw [b.perform_of_isValid hvalid, b.perform_of_isValid (hr.handle ▸ hvalid)]
    exact h.submit hr b
  | false =>
    rw [b.perform_of_not_isValid hvalid, b.perform_of_not_isValid (hr.handle ▸ hvalid)]
    exact ⟨rfl, h⟩

theorem Like.route (h : q.Like q') (hr : r.Like waits r') (route : Route Empty .posix) :
    EndsAlike waits ((route.perform r).run q) ((route.perform r').run q') := by
  cases hchecks : route.checks with
  | true =>
    rw [Route.perform_of_checks hchecks, Route.perform_of_checks hchecks]
    exact h.perform hr route.backend
  | false =>
    rw [Route.perform_of_not_checks hchecks, Route.perform_of_not_checks hchecks]
    exact h.submit hr route.backend

end Process

/-! ### Guards and slots -/

section Like

variable {E : ByteRange → ByteRange → Prop}

/-- Ranges that are related are read as the same span. -/
def SameSpans (E : ByteRange → ByteRange → Prop) : Prop :=
  ∀ r r', E r r' → r'.span = r.span

/-- The guards differ in how their ranges are written, and in nothing else. -/
structure Guard.Like (E : ByteRange → ByteRange → Prop) (g g' : Guard Empty .posix) : Prop where
  backend : g'.backend = g.backend
  handle : g'.handle = g.handle
  range : E g.range g'.range
  mode : g'.mode = g.mode
  held : g'.held = g.held

/-- The same slots are filled, with guards that are alike. -/
def Slots.Like (E : ByteRange → ByteRange → Prop) (slots slots' : Slots Empty .posix) : Prop :=
  ∀ slot, Option.Rel (Guard.Like E) (slots.find? slot) (slots'.find? slot)

theorem Guard.Like.releaseRequest (spans : SameSpans E) {g g' : Guard Empty .posix}
    (h : Guard.Like E g g') (waits : Wait → Wait) :
    Request.Like waits g.releaseRequest g'.releaseRequest :=
  ⟨h.handle, spans _ _ h.range, rfl⟩

theorem Slots.Like.insert {slots slots' : Slots Empty .posix} (h : Slots.Like E slots slots')
    (slot : String) {g g' : Guard Empty .posix} (hg : Guard.Like E g g') :
    Slots.Like E (slots.insert slot g) (slots'.insert slot g') := by
  intro other
  rw [NameTable.find?_insert, NameTable.find?_insert]
  split
  · exact .some hg
  · exact h other

theorem Slots.Like.erase {slots slots' : Slots Empty .posix} (h : Slots.Like E slots slots')
    (slot : String) : Slots.Like E (slots.erase slot) (slots'.erase slot) := by
  intro other
  rw [NameTable.find?_erase, NameTable.find?_erase]
  split
  · exact .none
  · exact h other

theorem Slots.Like.find?_cases {slots slots' : Slots Empty .posix} (h : Slots.Like E slots slots')
    (slot : String) : (slots.find? slot = none ∧ slots'.find? slot = none) ∨
      ∃ g g', slots.find? slot = some g ∧ slots'.find? slot = some g' ∧ Guard.Like E g g' := by
  have hslot := h slot
  generalize slots.find? slot = found at hslot ⊢
  generalize slots'.find? slot = found' at hslot ⊢
  cases hslot with
  | none => exact Or.inl ⟨rfl, rfl⟩
  | some hg => exact Or.inr ⟨_, _, rfl, rfl, hg⟩

/-- What is seen of a step and of the step when it is varied. -/
inductive Answer.Like (E : ByteRange → ByteRange → Prop) (waits : Wait → Wait) :
    Answer Empty .posix → Answer Empty .posix → Prop
  | report (r : Report .posix) : Like E waits (.report r) (.report (r.mapWait waits))
  | granted {g g' : Guard Empty .posix} (h : Guard.Like E g g') :
      Like E waits (.granted g) (.granted g')
  | described {g g' : Guard Empty .posix} (h : Guard.Like E g g') :
      Like E waits (.described g) (.described g')
  | dropped : Like E waits .dropped .dropped
  | empty : Like E waits .empty .empty

/-! ### Steps -/

namespace Step

variable {v : Variation} {slots slots' : Slots Empty .posix}
  {step : Step Empty .posix (Handle .posix)}

/-- The variation replaces the step's range by one that is related to it. -/
def Fits (E : ByteRange → ByteRange → Prop) (v : Variation) (step : Step Empty .posix τ) : Prop :=
  ∀ r, step.range? = some r → E r (v.ranges r)

theorem Fits.mapFile {step : Step Empty .posix τ} (h : step.Fits E v) (f : τ → υ) :
    (step.mapFile f).Fits E v := by
  cases step with
  | invoke invocation => cases invocation <;> exact h
  | lock | tryLock | guard | info | unlock | drop => exact h

theorem exists_enters?_vary (spans : SameSpans E) (fits : step.Fits E v)
    (hslots : Slots.Like E slots slots') {route : Route Empty .posix} {r : Request .posix}
    (entry : step.enters? slots = some (route, r)) :
    ∃ r', (step.vary v).enters? slots' = some (route, r') ∧ Request.Like v.waits r r' := by
  cases step with
  | invoke invocation =>
    cases entry
    refine ⟨invocation.asked.vary v, ?_, rfl, ?_, rfl⟩
    · rw [vary, enters?, Invocation.route_vary, Invocation.asked_vary]
    · cases invocation with
      | request | acquireCode | releaseCode => exact spans _ _ (fits _ rfl)
  | lock | tryLock =>
    cases entry
    rw [vary, enters?_lockWith]
    exact ⟨_, rfl, rfl, spans _ _ (fits _ rfl), rfl⟩
  | guard =>
    cases entry
    exact ⟨_, rfl, rfl, spans _ _ (fits _ rfl), rfl⟩
  | info => cases entry
  | unlock slot | drop slot =>
    rcases Option.map_eq_some_iff.mp entry with ⟨g, hfound, hentry⟩
    cases hentry
    rcases hslots.find?_cases slot with ⟨hvacant, -⟩ | ⟨g₀, g', hfound₀, hfound', hg⟩
    · rw [hvacant] at hfound
      cases hfound
    · obtain rfl := Option.some.inj (hfound.symm.trans hfound₀)
      refine ⟨g'.releaseRequest, ?_, hg.releaseRequest spans v.waits⟩
      simp only [vary, enters?, hfound', hg.backend, Option.map_some]

theorem makes?_vary (fits : step.Fits E v) :
    Option.Rel (Guard.Like E) step.makes? (step.vary v).makes? := by
  cases step with
  | lock | tryLock =>
    rw [vary, makes?_lockWith]
    exact .some ⟨rfl, rfl, fits _ rfl, rfl, rfl⟩
  | guard => exact .some ⟨rfl, rfl, fits _ rfl, rfl, rfl⟩
  | invoke | info | unlock | drop => exact .none

theorem keeps_vary (fits : step.Fits E v) (hslots : Slots.Like E slots slots')
    (o : Outcome .posix) :
    Slots.Like E (step.keeps slots o) ((step.vary v).keeps slots' (o.mapWait v.waits)) := by
  have herased : Slots.Like E ((step.frees?.map slots.erase).getD slots)
      ((step.frees?.map slots'.erase).getD slots') := by
    cases step.frees? with
    | none => exact hslots
    | some slot => exact hslots.erase slot
  cases o with
  | error f => simpa only [Outcome.mapWait, keeps, frees?_vary] using herased
  | ok =>
    have hmakes := makes?_vary fits
    simp only [Outcome.mapWait, keeps, frees?_vary, claims?_vary]
    generalize step.makes? = made at hmakes ⊢
    generalize (step.vary v).makes? = made' at hmakes ⊢
    cases hmakes with
    | none => cases step.claims? <;> exact herased
    | some hg =>
      cases step.claims? with
      | none => exact herased
      | some slot => exact hslots.insert slot hg

theorem tells_vary (fits : step.Fits E v) (o : Outcome .posix) :
    Answer.Like E v.waits (step.tells o) ((step.vary v).tells (o.mapWait v.waits)) := by
  cases step with
  | invoke invocation =>
    cases invocation with
    | request => exact .report (.outcome o)
    | acquireCode | releaseCode =>
      simp only [vary, Invocation.vary, tells, Invocation.reports, Outcome.toCode_mapWait]
      exact .report (.code o.toCode)
  | lock | tryLock =>
    simp only [vary]
    cases o with
    | error f =>
      rw [Outcome.mapWait, tells_lockWith_error]
      exact .report (.outcome (.error f))
    | ok =>
      rw [Outcome.mapWait, tells_lockWith_ok]
      exact .granted ⟨rfl, rfl, fits _ rfl, rfl, rfl⟩
  | guard =>
    cases o with
    | error f => exact .report (.outcome (.error f))
    | ok => exact .granted ⟨rfl, rfl, fits _ rfl, rfl, rfl⟩
  | info | unlock => cases o <;> exact .report (.outcome _)
  | drop => exact .dropped

theorem drop_like (spans : SameSpans E) {g g' : Guard Empty .posix} (hg : Guard.Like E g g')
    {q q' : Process} (h : q.Like q') : (g.drop.run q).2.Like (g'.drop.run q').2 := by
  unfold Guard.drop
  rw [hg.held, hg.backend]
  cases g.held with
  | true => exact (h.perform (hg.releaseRequest spans id) g.backend).process
  | false => exact h

theorem clearPlace_vary (spans : SameSpans E) (hslots : Slots.Like E slots slots')
    {q q' : Process} (h : q.Like q') (o : Outcome .posix) :
    ((step.clearPlace slots o).run q).2.Like
      (((step.vary v).clearPlace slots' (o.mapWait v.waits)).run q').2 := by
  cases o with
  | error f => exact h
  | ok =>
    simp only [Outcome.mapWait, clearPlace, displaces?, claims?_vary]
    cases step.claims? with
    | none => exact h
    | some slot =>
      simp only [Option.bind_some]
      rcases hslots.find?_cases slot with ⟨hfound, hfound'⟩ | ⟨g, g', hfound, hfound', hg⟩
      · rw [hfound, hfound']
        exact h
      · rw [hfound, hfound']
        exact drop_like spans hg h

end Step

/-! ### Sessions -/

namespace Session

def Action.range? : Action → Option ByteRange
  | step taken => taken.range?
  | child invocation => some invocation.range
  | _ => none

def Action.vary (v : Variation) : Action → Action
  | step taken => step (taken.vary v)
  | child invocation => child (invocation.vary v)
  | action => action

@[simp] theorem Action.vary_id (action : Action) : action.vary ⟨id, id⟩ = action := by
  cases action with
  | step taken =>
    cases taken with
    | invoke invocation => exact congrArg (fun i => step (.invoke i)) invocation.vary_id
    | lock | tryLock | guard | info | unlock | drop => rfl
  | child invocation => exact congrArg child invocation.vary_id
  | openFile | dup | close => rfl

def Action.Fits (E : ByteRange → ByteRange → Prop) (v : Variation) (action : Action) : Prop :=
  ∀ r, action.range? = some r → E r (v.ranges r)

def Answer.mapWait (waits : Wait → Wait) : Answer → Answer
  | step (.report r) => step (.report (r.mapWait waits))
  | child code => child (conflictAs waits code)
  | answer => answer

inductive Answer.Like (E : ByteRange → ByteRange → Prop) (waits : Wait → Wait) :
    Answer → Answer → Prop
  | step {answer answer' : FileLocks.Answer Empty .posix}
      (h : FileLocks.Answer.Like E waits answer answer') :
      Like E waits (.step answer) (.step answer')
  | outcome (o : Outcome .posix) : Like E waits (.outcome o) (.outcome o)
  | child (code : Int32) : Like E waits (.child code) (.child (conflictAs waits code))

/-- The sessions are on the same kernel, have the same files and keep guards that are
    alike. -/
structure Like (E : ByteRange → ByteRange → Prop) (s s' : Session) : Prop where
  kernel : s'.process.kernel = s.process.kernel
  files : s'.files = s.files
  slots : Slots.Like E s.slots s'.slots

theorem like_initial : Like E initial initial :=
  ⟨rfl, rfl, fun _ => .none⟩

variable {v : Variation} {s s' : Session}

theorem Like.process (h : Like E s s') (hs : s.Sound) (hs' : s'.Sound) :
    s.process.Like s'.process :=
  ⟨h.kernel, hs'.self.trans hs.self.symm⟩

/-- Two actions were answered alike and left sessions that are alike. -/
structure EndsAlike (E : ByteRange → ByteRange → Prop) (waits : Wait → Wait)
    (ended ended' : Answer × Session) : Prop where
  answer : Answer.Like E waits ended.1 ended'.1
  session : Like E ended.2 ended'.2

/-- A step that makes no request looks at a guard or finds none. -/
theorem Like.advance_of_not_enters (h : Like E s s') {step : Step Empty .posix Target}
    (entry : (step.mapFile s.resolve).enters? s.slots = none) :
    EndsAlike E v.waits (s.advance (.step step)) (s'.advance (.step (step.vary v))) := by
  cases step with
  | invoke | lock | tryLock | guard => cases entry
  | info slot =>
    rcases h.slots.find?_cases slot with ⟨hfound, hfound'⟩ | ⟨g, g', hfound, hfound', hg⟩
    · simp only [Step.vary, Session.advance, Step.mapFile, Step.perform, hfound, hfound']
      exact ⟨.step .empty, h⟩
    · simp only [Step.vary, Session.advance, Step.mapFile, Step.perform, hfound, hfound']
      exact ⟨.step (.described hg), h⟩
  | unlock slot | drop slot =>
    have hvacant : s.slots.find? slot = none := Option.map_eq_none_iff.mp entry
    rcases h.slots.find?_cases slot with ⟨-, hvacant'⟩ | ⟨g, g', hfound, -, -⟩
    · simp only [Step.vary, Session.advance, Step.mapFile, Step.perform, hvacant, hvacant']
      exact ⟨.step .empty, h⟩
    · rw [hvacant] at hfound
      cases hfound

theorem Like.advance_step (spans : SameSpans E) (h : Like E s s') (hs : s.Sound)
    (hs' : s'.Sound) {step : Step Empty .posix Target} (fits : step.Fits E v) :
    EndsAlike E v.waits (s.advance (.step step)) (s'.advance (.step (step.vary v))) := by
  have hfits := fits.mapFile s.resolve
  have hmapFile : (step.vary v).mapFile s'.resolve = (step.mapFile s.resolve).vary v := by
    rw [resolve_eq_of_files h.files, Step.mapFile_vary]
  cases hentry : (step.mapFile s.resolve).enters? s.slots with
  | none => exact h.advance_of_not_enters hentry
  | some entry =>
    obtain ⟨route, r⟩ := entry
    obtain ⟨r', hentry', hrequest⟩ := Step.exists_enters?_vary spans hfits h.slots hentry
    obtain ⟨houtcome, hbetween⟩ := (h.process hs hs').route hrequest route
    rw [advance_of_enters hs.held hentry, advance_of_enters hs'.held (hmapFile ▸ hentry'),
      hmapFile, houtcome]
    exact ⟨.step (Step.tells_vary hfits _),
      (Step.clearPlace_vary spans h.slots hbetween _).kernel, h.files,
      Step.keeps_vary hfits h.slots _⟩

theorem Like.advance_child (spans : SameSpans E) (h : Like E s s')
    {invocation : Invocation Empty .posix Target}
    (fits : E invocation.range (v.ranges invocation.range)) :
    EndsAlike E v.waits (s.advance (.child invocation))
      (s'.advance (.child (invocation.vary v))) := by
  have hforked :
      Process.Like { s.process with self := .child } { s'.process with self := .child } :=
    ⟨h.kernel, rfl⟩
  have hrequest : Request.Like v.waits (invocation.mapFile s.resolve).asked
      ((invocation.mapFile s.resolve).asked.vary v) := by
    refine ⟨rfl, ?_, rfl⟩
    cases invocation <;> exact spans _ _ fits
  obtain ⟨houtcome, hprocess⟩ :=
    hforked.route hrequest (invocation.mapFile s.resolve).route
  obtain ⟨hcode, hkernel⟩ := runChild_eq s.process (invocation.mapFile s.resolve)
  obtain ⟨hcode', hkernel'⟩ :=
    runChild_eq s'.process ((invocation.vary v).mapFile s'.resolve)
  rw [resolve_eq_of_files h.files, Invocation.mapFile_vary, Invocation.route_vary,
    Invocation.asked_vary] at hcode' hkernel'
  rw [houtcome, Outcome.toCode_mapWait, ← hcode] at hcode'
  rw [hprocess.kernel, ← hkernel] at hkernel'
  simp only [Session.advance, resolve_eq_of_files h.files, Invocation.mapFile_vary, hcode',
    hkernel']
  exact ⟨.child _, rfl, h.files, h.slots⟩

theorem Like.advance (spans : SameSpans E) (h : Like E s s') (hs : s.Sound)
    (hs' : s'.Sound) {action : Action} (fits : action.Fits E v) :
    EndsAlike E v.waits (s.advance action) (s'.advance (action.vary v)) := by
  cases action with
  | step => exact h.advance_step spans hs hs' fits
  | child => exact h.advance_child spans (fits _ rfl)
  | openFile name access =>
    simp only [Action.vary, Session.advance, h.kernel, h.files]
    cases s.process.kernel.openFile access with
    | error code => exact ⟨.outcome _, h⟩
    | ok opened => exact ⟨.outcome _, rfl, rfl, h.slots⟩
  | dup name copy =>
    simp only [Action.vary, Session.advance, h.kernel, h.files]
    cases (s.files.find? name).elim (.error Errno.EBADF) s.process.kernel.dup with
    | error code => exact ⟨.outcome _, h⟩
    | ok opened => exact ⟨.outcome _, rfl, rfl, h.slots⟩
  | close name =>
    simp only [Action.vary, Session.advance, h.kernel, h.files]
    cases (s.files.find? name).elim (.error Errno.EBADF) s.process.kernel.close with
    | error code => exact ⟨.outcome _, h⟩
    | ok kernel => exact ⟨.outcome _, rfl, rfl, h.slots⟩

/-- When the actions of a session are varied one by one, they are answered alike one by
    one. -/
theorem Like.run {ι : Type} {action : ι → Action} {variation : ι → Variation}
    (spans : SameSpans E) (h : Like E s s') (hs : s.Sound) (hs' : s'.Sound) {script : List ι}
    (fits : ∀ entry ∈ script, (action entry).Fits E (variation entry)) :
    let asked := s.run (script.map action)
    let varied := s'.run (script.map fun entry => (action entry).vary (variation entry))
    List.Forall₂ (fun entry answer' => Answer.Like E (variation entry.1).waits entry.2 answer')
        (script.zip asked.1) varied.1 ∧
      Like E asked.2 varied.2 := by
  induction script generalizing s s' with
  | nil => exact ⟨.nil, h⟩
  | cons entry rest ih =>
    obtain ⟨hanswer, hnext⟩ := h.advance spans hs hs' (fits entry List.mem_cons_self)
    obtain ⟨hanswers, hlast⟩ := ih hnext (hs.advance _) (hs'.advance _)
      fun other hother => fits other (List.mem_cons_of_mem entry hother)
    exact ⟨.cons hanswer hanswers, hlast⟩

end Session

end Like

end FileLocks
