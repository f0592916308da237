/-
  FileLocks/Proofs/Session/Waiting.lean
  =====================================
  **Whether a request waits.**

  A wait for a lock that is not granted at once is cut short.  To wait or not to wait
  therefore makes a difference to how a conflict is reported (`Kernel.conflictAs`), and
  to nothing else that is seen or kept: a session that asks with other policies is a
  variation in lockstep with the first, and a failed step leaves nothing behind in either.
-/
import FileLocks.Proofs.Session.Variations

namespace FileLocks

/-! ### Policies -/

namespace Wait

/-- The other policy. -/
def other : Wait → Wait
  | blocking => nonblocking
  | nonblocking => blocking

/-- The kind of failure that a conflict is reported as. -/
def conflictKind : Wait → FailureKind
  | blocking => .interrupted
  | nonblocking => .wouldBlock

end Wait

/-- The policy of an operation.  Only locking has one. -/
def Operation.wait? : Operation → Option Wait
  | acquire wait _ => some wait
  | release => none

def Invocation.wait? {β τ : Type} {p : Platform} : Invocation β p τ → Option Wait
  | request _ _ _ operation => operation.wait?
  | acquireCode _ mayBlock _ _ _ => some (.ofBlocking mayBlock)
  | releaseCode _ _ _ => none

def Step.wait? {β τ : Type} {p : Platform} : Step β p τ → Option Wait
  | invoke invocation => invocation.wait?
  | lock _ _ _ _ => some .blocking
  | tryLock _ _ _ _ => some .nonblocking
  | guard _ _ _ wait _ _ => some wait
  | _ => none

def Session.Action.wait? : Session.Action → Option Wait
  | step taken => taken.wait?
  | child invocation => invocation.wait?
  | _ => none

/-- No rule refuses a request as a conflict is reported under the other policy. -/
theorem ByteTable.Refuses.kind_ne {t : ByteTable} {self : Owner} {scope : Posix.Scope}
    {r : ByteRange} {d? : Option Descriptor} {wait : Wait} {mode : Mode} {code : Int32}
    (h : t.Refuses self scope r d? (.acquire wait mode) code) :
    (⟨code⟩ : Failure .posix).kind ≠ wait.other.conflictKind := by
  cases h with
  | notOpen | beforeStart | beyondEnd | noAccess | blocked => cases wait <;> decide

theorem sameSpans_eq : SameSpans Eq := by
  rintro r _ rfl
  rfl

theorem Guard.Like.eq {g g' : Guard Empty .posix} (h : Guard.Like Eq g g') : g' = g := by
  cases g
  cases g'
  rw [Guard.mk.injEq]
  exact ⟨h.backend, h.handle, h.range.symm, h.mode, h.held⟩

theorem Slots.Like.find?_eq {slots slots' : Slots Empty .posix} (h : Slots.Like Eq slots slots')
    (slot : String) : slots'.find? slot = slots.find? slot := by
  rcases h.find?_cases slot with ⟨hfound, hfound'⟩ | ⟨g, g', hfound, hfound', hg⟩
  · rw [hfound, hfound']
  · rw [hfound, hfound', hg.eq]

namespace Session

variable {s : Session}

/-! ### What is reported -/

/-- The code that an answer shows, which is zero for success. -/
def Answer.code? : Answer → Option Int32
  | .step (.report r) => some r.toCode
  | .outcome o => some o.toCode
  | .child code => some code
  | _ => none

/-- The answer shows a code that says a certain thing about a lock. -/
def Answer.Reports (kind : FailureKind) (answer : Answer) : Prop :=
  ∃ code ∈ answer.code?, (⟨code⟩ : Failure .posix).kind = kind

theorem eq_toCode_of_shows {action : Action} {o : Outcome .posix} {code : Int32}
    (h : code ∈ (s.shows action o).code?) : code = o.toCode := by
  cases action with
  | step taken =>
    cases taken with
    | invoke invocation => cases invocation <;> exact (Option.some.inj h).symm
    | lock | tryLock | guard =>
      cases o with
      | ok => cases h
      | error f => exact (Option.some.inj h).symm
    | info | unlock => cases o <;> exact (Option.some.inj h).symm
    | drop => cases h
  | child => exact (Option.some.inj h).symm
  | openFile | dup | close => exact (Option.some.inj h).symm

theorem exists_acquire_of_wait? {invocation : Invocation Empty .posix Target} {wait : Wait}
    (h : invocation.wait? = some wait) (f : Target → Handle .posix) :
    ∃ mode, (invocation.mapFile f).asked.operation = .acquire wait mode := by
  cases invocation with
  | request _ _ _ operation =>
    cases operation with
    | acquire _ mode =>
      cases h
      exact ⟨mode, rfl⟩
    | release => cases h
  | acquireCode =>
    cases h
    exact ⟨_, rfl⟩
  | releaseCode => cases h

/-- An action with a policy asks for a lock with it. -/
theorem exists_demand_of_wait? {action : Action} {wait : Wait} (h : action.wait? = some wait) :
    ∃ d mode, s.demand? action = some d ∧ d.request.operation = .acquire wait mode := by
  cases action with
  | step taken =>
    cases taken with
    | invoke invocation =>
      obtain ⟨mode, hasked⟩ := exists_acquire_of_wait? h s.resolve
      exact ⟨_, mode, rfl, hasked⟩
    | lock | tryLock | guard =>
      cases h
      exact ⟨_, _, rfl, rfl⟩
    | info | unlock | drop => cases h
  | child invocation =>
    obtain ⟨mode, hasked⟩ := exists_acquire_of_wait? h s.resolve
    exact ⟨_, mode, rfl, hasked⟩
  | openFile | dup | close => cases h

/-- A conflict is reported as the policy of the request demands. -/
theorem not_reports_other (hs : s.Sound) {action : Action} {wait : Wait}
    (policy : action.wait? = some wait) :
    ¬ (s.advance action).1.Reports wait.other.conflictKind := by
  obtain ⟨d, mode, hdemand, acquires⟩ := @exists_demand_of_wait? s action wait policy
  obtain ⟨result, k, hserves⟩ := exists_serves hs hdemand
  rintro ⟨code, hcode, hkind⟩
  rw [hserves.answer] at hcode
  obtain rfl := eq_toCode_of_shows hcode
  cases result with
  | ok =>
    cases wait <;> cases hkind
  | error f =>
    obtain ⟨-, hrefuses⟩ := hserves.met.refused f.code rfl
    rw [acquires] at hrefuses
    exact hrefuses.kind_ne hkind

/-! ### Other policies -/

/-- The action with the other policy for waiting. -/
def Action.flipWait (action : Action) : Action :=
  action.vary ⟨Wait.other, id⟩

theorem Answer.Like.eq_mapWait {waits : Wait → Wait} {answer answer' : Answer}
    (h : Answer.Like Eq waits answer answer') : answer' = answer.mapWait waits := by
  cases h with
  | step h =>
    cases h with
    | report => rfl
    | granted hg => exact congrArg (fun g => Answer.step (.granted g)) hg.eq
    | described hg => exact congrArg (fun g => Answer.step (.described g)) hg.eq
    | dropped => rfl
    | empty => rfl
  | outcome => rfl
  | child => rfl

@[simp] theorem Answer.mapWait_id (answer : Answer) : answer.mapWait id = answer := by
  cases answer with
  | step answer =>
    cases answer with
    | report r => exact congrArg (fun r => Answer.step (.report r)) r.mapWait_id
    | granted | described | dropped | empty => rfl
  | outcome => rfl
  | child code => exact congrArg Answer.child (Kernel.conflictAs_id code)

theorem run_flipWait (script : List (Action × Bool)) :
    let asked := initial.run (script.map Prod.fst)
    let flipped :=
      initial.run (script.map fun entry => if entry.2 then entry.1.flipWait else entry.1)
    flipped.1 = ((script.zip asked.1).map fun entry =>
      if entry.1.2 then entry.2.mapWait Wait.other else entry.2) ∧
      Like Eq asked.2 flipped.2 := by
  intro asked flipped
  have hvaried : (script.map fun entry => if entry.2 then entry.1.flipWait else entry.1)
      = script.map fun entry => entry.1.vary ⟨if entry.2 then Wait.other else id, id⟩ := by
    apply List.map_congr_left
    rintro ⟨action, flips⟩ -
    cases flips with
    | true => rfl
    | false => exact action.vary_id.symm
  have hfits : ∀ entry ∈ script,
      entry.1.Fits Eq ⟨if entry.2 then Wait.other else id, id⟩ := fun _ _ _ _ => rfl
  obtain ⟨hanswers, hlast⟩ := like_initial.run sameSpans_eq sound_initial sound_initial hfits
  rw [← hvaried] at hanswers hlast
  refine ⟨?_, hlast⟩
  rw [← List.forall₂_eq_eq_eq, List.forall₂_map_right_iff]
  apply List.Forall₂.flip
  refine hanswers.imp ?_
  rintro ⟨⟨action, flips⟩, answer⟩ answer' hlike
  have hanswer' := hlike.eq_mapWait
  cases flips with
  | true => exact hanswer'
  | false => exact hanswer'.trans answer.mapWait_id

/-- **The policy for waiting changes how a conflict is reported, and nothing else.**  If
    some actions of a session ask with the other policy, then each of them is answered
    as before, except that the two codes of a conflict change places, and all others are
    answered as before.  The same locks are held and the same slots filled, with the same
    guards, after every action.  A conflict is thus never reported as the other policy
    would have it. -/
theorem waiting_shows_in_reports (script : List (Action × Bool)) :
    let actions := script.map Prod.fst
    let flipped := script.map fun entry => if entry.2 then entry.1.flipWait else entry.1
    play flipped = ((script.zip (play actions)).map fun entry =>
      if entry.1.2 then entry.2.mapWait Wait.other else entry.2) ∧
    (∀ code, Kernel.conflictAs Wait.other code = if code = Errno.EINTR then Errno.EAGAIN
      else if code = Errno.EAGAIN then Errno.EINTR else code) ∧
    (∀ n, (initial.run (flipped.take n)).2.process.kernel.locks
        = (initial.run (actions.take n)).2.process.kernel.locks ∧
      ∀ slot, (initial.run (flipped.take n)).2.slots.find? slot
        = (initial.run (actions.take n)).2.slots.find? slot) ∧
    ∀ action,
      (action.wait? = some .blocking →
        ¬ ((initial.run actions).2.advance action).1.Reports .wouldBlock) ∧
      (action.wait? = some .nonblocking →
        ¬ ((initial.run actions).2.advance action).1.Reports .interrupted) := by
  intro actions flipped
  refine ⟨(run_flipWait script).1, fun code => rfl, ?_, ?_⟩
  · intro n
    have hlike := (run_flipWait (script.take n)).2
    rw [List.map_take, List.map_take] at hlike
    exact ⟨congrArg Kernel.locks hlike.kernel, fun slot => hlike.slots.find?_eq slot⟩
  · intro action
    exact ⟨not_reports_other (sound_run_initial actions),
      not_reports_other (sound_run_initial actions)⟩

end Session

end FileLocks
