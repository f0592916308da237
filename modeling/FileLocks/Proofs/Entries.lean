/-
  FileLocks/Proofs/Entries.lean
  =============================
  **The request of a step.**

  There are many ways in: typed requests and plain values, the default backend and
  a given one, references, guards that are made, unlocked or let go of.  They all
  come down to one request to one backend.  `Step.enters?` names it for every step,
  and `Step.perform_eq` says that to take a step is to make this request, to let go
  of a guard that a new one displaces, and to tell the outcome.

  This holds on every system, so that what is known of requests carries over to
  steps, wherever they come in.
-/
import FileLocks.Proofs.Slots

namespace FileLocks

variable {β : Type} {p : Platform} {σ : Type}

/-! ### Routes -/

namespace Backend

/-- The backend that a chain of references leads to. -/
def origin : {p : Platform} → Backend β p → Backend β p
  | _, reference target => target.origin
  | _, b => b

/-- What the default backend does is no matter of the caller's own backends. -/
theorem perform_system [System p σ] [CustomBackend p β σ] (r : Request p) :
    (system p : Backend Empty p).perform (σ := σ) r = (system p : Backend β p).perform r := by
  cases p <;> rfl

end Backend

namespace Route

/-- The backend that a route leads to. -/
def backend : Route β p → Backend β p
  | default => .system p
  | checked b => b
  | bare b => b

/-- Whether the handle is checked on the way. -/
def checks : Route β p → Bool
  | bare _ => false
  | _ => true

variable [System p σ] [CustomBackend p β σ]

theorem perform_of_checks {route : Route β p} (h : route.checks = true) (r : Request p) :
    route.perform (σ := σ) r = route.backend.perform r := by
  cases route with
  | default =>
    obtain ⟨handle, range, operation⟩ := r
    cases operation with
    | acquire => exact Backend.perform_system _
    | release => exact Backend.perform_system _
  | checked => rfl
  | bare => cases h

theorem perform_of_not_checks {route : Route β p} (h : route.checks = false) (r : Request p) :
    route.perform (σ := σ) r = route.backend.submit r := by
  cases route with
  | default => cases h
  | checked => cases h
  | bare => rfl

end Route

/-! ### Answers -/

/-- The answer says that a request came to the outcome.  To let go of a guard says
    nothing of it. -/
def Answer.Tells (o : Outcome p) : Answer β p → Prop
  | .report (.outcome o') => o' = o
  | .report (.code c) => c = o.toCode
  | .granted _ => o = .ok ()
  | .dropped => True
  | _ => False

/-! ### Entries -/

namespace Invocation

variable {τ υ : Type}

def route : Invocation β p τ → Route β p
  | request route .. => route
  | acquireCode .. => .default
  | releaseCode .. => .default

/-- What is asked, plain values turned into typed ones. -/
def asked : Invocation β p (Handle p) → Request p
  | request _ file range operation => ⟨file, range, operation⟩
  | acquireCode file mayBlock offset length wantsShared =>
    ⟨file, ⟨offset, length⟩, .acquire (.ofBlocking mayBlock) (.ofShared wantsShared)⟩
  | releaseCode file offset length => ⟨file, ⟨offset, length⟩, .release⟩

/-- How the outcome of the request is told. -/
def reports : Invocation β p τ → Outcome p → Report p
  | request .., o => .outcome o
  | acquireCode .., o => .code o.toCode
  | releaseCode .., o => .code o.toCode

theorem perform_eq [System p σ] [CustomBackend p β σ] (invocation : Invocation β p (Handle p)) :
    invocation.perform (σ := σ)
      = invocation.reports <$> invocation.route.perform invocation.asked := by
  have hdefault : ∀ r : Request p,
      (Route.default : Route β p).perform (σ := σ) r
        = (Backend.system p : Backend Empty p).perform r := by
    intro r
    rw [Route.perform_of_checks rfl]
    exact (Backend.perform_system r).symm
  cases invocation with
  | request => rfl
  | acquireCode =>
    simp only [route, hdefault]
    rfl
  | releaseCode =>
    simp only [route, hdefault]
    rfl

@[simp] theorem route_mapFile (f : τ → υ) (invocation : Invocation β p τ) :
    (invocation.mapFile f).route = invocation.route := by
  cases invocation <;> rfl

@[simp] theorem reports_mapFile (f : τ → υ) (invocation : Invocation β p τ) (o : Outcome p) :
    (invocation.mapFile f).reports o = invocation.reports o := by
  cases invocation <;> rfl

end Invocation

namespace Step

/-- The guard that a step makes if its request succeeds. -/
def makes? : Step β p (Handle p) → Option (Guard β p)
  | lock _ file range mode => some ⟨.system p, file, range, mode, true⟩
  | tryLock _ file range mode => some ⟨.system p, file, range, mode, true⟩
  | guard _ backend file _ range mode => some ⟨backend, file, range, mode, true⟩
  | _ => none

/-- The request of a step, and its route.  A step has none if it only looks at a
    guard, or is about a guard that is not there. -/
def enters? (slots : Slots β p) : Step β p (Handle p) → Option (Route β p × Request p)
  | invoke invocation => some (invocation.route, invocation.asked)
  | lock _ file range mode => some (.checked (.system p), ⟨file, range, .acquire .blocking mode⟩)
  | tryLock _ file range mode =>
    some (.checked (.system p), ⟨file, range, .acquire .nonblocking mode⟩)
  | guard _ backend file wait range mode =>
    some (.checked backend, ⟨file, range, .acquire wait mode⟩)
  | info _ => none
  | unlock slot => (slots.find? slot).map fun g => (.checked g.backend, g.releaseRequest)
  | drop slot => (slots.find? slot).map fun g => (.checked g.backend, g.releaseRequest)

/-- What is seen of a step when its request comes to an outcome. -/
def tells : Step β p (Handle p) → Outcome p → Answer β p
  | invoke invocation, o => .report (invocation.reports o)
  | drop _, _ => .dropped
  | _, .error f => .report (.outcome (.error f))
  | step, .ok _ => (step.makes?.map .granted).getD (.report (.outcome (.ok ())))

/-- The guards that are kept then. -/
def keeps (slots : Slots β p) (step : Step β p (Handle p)) : Outcome p → Slots β p
  | .error _ => (step.frees?.map slots.erase).getD slots
  | .ok _ =>
    match step.claims?, step.makes? with
    | some slot, some g => slots.insert slot g
    | _, _ => (step.frees?.map slots.erase).getD slots

/-- The guard that a step puts another one in place of. -/
def displaces? {τ : Type} (slots : Slots β p) (step : Step β p τ) : Option (Guard β p) :=
  step.claims?.bind slots.find?

variable [System p σ] [CustomBackend p β σ]

/-- Let go of the guard that a new one displaces, once that is granted. -/
def clearPlace (slots : Slots β p) (step : Step β p (Handle p)) : Outcome p → StateM σ Unit
  | .error _ => pure ()
  | .ok _ =>
    match step.displaces? slots with
    | some g => g.drop
    | none => pure ()

theorem clearPlace_of_displaces?_eq_none {slots : Slots β p} {step : Step β p (Handle p)}
    (place : step.displaces? slots = none) (o : Outcome p) :
    step.clearPlace (σ := σ) slots o = pure () := by
  cases o <;> simp only [clearPlace, place]

theorem tells_tells (step : Step β p (Handle p)) (o : Outcome p) : (step.tells o).Tells o := by
  cases step with
  | invoke invocation => cases invocation <;> rfl
  | drop => trivial
  | lock | tryLock | guard | info | unlock => cases o <;> rfl

theorem keep_eq (slots : Slots β p) {slot : String} {g : Guard β p}
    {step : Step β p (Handle p)} (claims : step.claims? = some slot)
    (makes : step.makes? = some g) (o : Outcome p) :
    keep (σ := σ) slots slot (o.map fun _ => g) = do
      step.clearPlace slots o
      return (step.tells o, step.keeps slots o) := by
  cases step with
  | lock | tryLock | guard =>
    cases claims
    cases makes
    cases o with
    | error f => rfl
    | ok =>
      simp only [keep, Except.map, clearPlace, displaces?, claims?, Option.bind_some]
      cases slots.find? slot <;> rfl
  | invoke | info | unlock | drop => cases claims

/-- A request is made as it comes, if it does not let go of a guard. -/
theorem perform_eq_of_frees?_eq_none {slots : Slots β p} {route : Route β p} {r : Request p}
    {step : Step β p (Handle p)} (frees : step.frees? = none)
    (entry : step.enters? slots = some (route, r)) :
    step.perform (σ := σ) slots = do
      let o ← route.perform r
      step.clearPlace slots o
      return (step.tells o, step.keeps slots o) := by
  cases step with
  | invoke invocation =>
    cases entry
    simp only [perform, Invocation.perform_eq, map_eq_pure_bind, bind_assoc, pure_bind]
    refine bind_congr fun o => ?_
    cases o <;> rfl
  | lock | tryLock | guard =>
    cases entry
    exact bind_congr fun o => keep_eq slots rfl rfl o
  | info => cases entry
  | unlock | drop => cases frees

/-- To take a step is to make its request, to let go of the guard that is displaced
    if that succeeds, and to tell the outcome. -/
theorem perform_eq {slots : Slots β p} (held : slots.Held) {route : Route β p} {r : Request p}
    {step : Step β p (Handle p)} (entry : step.enters? slots = some (route, r)) :
    step.perform (σ := σ) slots = do
      let o ← route.perform r
      step.clearPlace slots o
      return (step.tells o, step.keeps slots o) := by
  cases step with
  | invoke | lock | tryLock | guard | info => exact perform_eq_of_frees?_eq_none rfl entry
  | unlock slot =>
    rcases Option.map_eq_some_iff.mp entry with ⟨g, hfound, hentry⟩
    cases hentry
    simp only [perform, hfound]
    refine bind_congr fun o => ?_
    cases o <;> rfl
  | drop slot =>
    rcases Option.map_eq_some_iff.mp entry with ⟨g, hfound, hentry⟩
    cases hentry
    simp only [perform, hfound, Guard.drop, held slot g hfound, if_true, bind_assoc, pure_bind]
    refine bind_congr fun o => ?_
    cases o <;> rfl

/-- A step without a request asks for nothing and leaves the guards alone. -/
theorem exists_perform_eq_pure {slots : Slots β p} {step : Step β p (Handle p)}
    (entry : step.enters? slots = none) :
    ∃ answer, step.perform (σ := σ) slots = pure (answer, slots) := by
  cases step with
  | invoke | lock | tryLock | guard => cases entry
  | info slot =>
    simp only [perform]
    cases slots.find? slot with
    | none => exact ⟨_, rfl⟩
    | some g => exact ⟨_, rfl⟩
  | unlock slot =>
    have hvacant : slots.find? slot = none := Option.map_eq_none_iff.mp entry
    simp only [perform, hvacant]
    exact ⟨_, rfl⟩
  | drop slot =>
    have hvacant : slots.find? slot = none := Option.map_eq_none_iff.mp entry
    simp only [perform, hvacant]
    exact ⟨_, rfl⟩

end Step

/-! ### Kept guards hold their locks -/

namespace Step

theorem held_of_makes {step : Step β p (Handle p)} {g : Guard β p}
    (makes : step.makes? = some g) : g.held = true := by
  cases step with
  | lock | tryLock | guard => cases makes; rfl
  | invoke | info | unlock | drop => cases makes

theorem held_keeps {slots : Slots β p} (h : slots.Held) (step : Step β p (Handle p))
    (o : Outcome p) : (step.keeps slots o).Held := by
  have herased : Slots.Held ((step.frees?.map slots.erase).getD slots) := by
    cases step.frees? with
    | none => exact h
    | some slot => exact h.erase slot
  cases o with
  | error f => exact herased
  | ok =>
    simp only [keeps]
    split
    · next makes => exact h.insert _ (held_of_makes makes)
    · exact herased

theorem held_perform [System p σ] [CustomBackend p β σ] {slots : Slots β p} (h : slots.Held)
    (step : Step β p (Handle p)) (s : σ) : Slots.Held ((step.perform slots).run s).1.2 := by
  cases hentry : step.enters? slots with
  | none =>
    obtain ⟨answer, hperform⟩ := exists_perform_eq_pure (σ := σ) hentry
    rw [hperform]
    exact h
  | some entry =>
    obtain ⟨route, r⟩ := entry
    rw [perform_eq h hentry]
    exact held_keeps h step _

end Step

end FileLocks
