/-
  FileLocks/Proofs/Scripted/Steps.lean
  ====================================
  **What a step does with the slots, and what it asks for.**

  A step of a script puts a guard into a slot, takes one out, or leaves the slots
  alone.  `SlotChange` lists the cases with what is asked of the system in each,
  and `advance_slotChange` says that there are no others, as long as no step puts a
  guard into a slot that holds one.
-/
import FileLocks.Proofs.Scripted.Requests
import FileLocks.Proofs.Slots
import FileLocks.Script

namespace FileLocks

variable {p : Platform}

/-! ### Guards -/

namespace Guard

/-- The event by which a guard releases what it locked. -/
def releaseEvent? (g : Guard Recorder p) : Option (Event p) :=
  g.backend.checkedEvent? g.releaseRequest

/-- To unlock a guard releases once: the guard that is dropped at the end does not
    hold the lock any more. -/
theorem requests_unlock (g : Guard Recorder p) (s : Scripted p) :
    requests (g.unlock.run s).2.events = requests s.events ++ g.releaseEvent?.toList :=
  Backend.requests_perform g.backend g.releaseRequest s

theorem requests_drop {g : Guard Recorder p} (held : g.held = true) (s : Scripted p) :
    requests (g.drop.run s).2.events = requests s.events ++ g.releaseEvent?.toList := by
  unfold Guard.drop
  rw [if_pos held]
  exact Backend.requests_perform g.backend g.releaseRequest s

/-- A request for a guard either makes one that holds its lock and will release
    exactly that, or fails and asks for nothing to be released. -/
theorem run_acquire_cases (b : Backend Recorder p) (handle : Handle p) (wait : Wait)
    (range : ByteRange) (mode : Mode) (s : Scripted p) :
    (∃ g a r, ((acquire b handle wait range mode).run s).1 = .ok g ∧ g.held = true ∧
        requests ((acquire b handle wait range mode).run s).2.events
          = requests s.events ++ [a] ∧
        a.counterpart? = some r ∧ g.releaseEvent? = some r) ∨
      (∃ f es, ((acquire b handle wait range mode).run s).1 = .error f ∧
        requests ((acquire b handle wait range mode).run s).2.events
          = requests s.events ++ es ∧
        es.filter Event.releases = []) := by
  have hanswer : ((acquire b handle wait range mode).run s).1
      = ((b.perform ⟨handle, range, .acquire wait mode⟩).run s).1.map
          fun _ => ⟨b, handle, range, mode, true⟩ := rfl
  have hevents : requests ((acquire b handle wait range mode).run s).2.events
      = requests s.events ++ (b.checkedEvent? ⟨handle, range, .acquire wait mode⟩).toList :=
    b.requests_perform ⟨handle, range, .acquire wait mode⟩ s
  cases hout : ((b.perform ⟨handle, range, .acquire wait mode⟩).run s).1 with
  | ok value =>
    obtain ⟨a, ha⟩ := b.exists_checkedEvent?_of_perform_ok _ s hout
    obtain ⟨r, hr, hcounter⟩ := b.counterpart?_checkedEvent? handle range wait mode ha
    refine Or.inl ⟨⟨b, handle, range, mode, true⟩, a, r, ?_, rfl, ?_, hcounter, hr⟩
    · rw [hanswer, hout]; rfl
    · rw [hevents, ha]; rfl
  | error f =>
    refine Or.inr ⟨f, _, ?_, hevents, ?_⟩
    · rw [hanswer, hout]; rfl
    · cases ha : b.checkedEvent? ⟨handle, range, .acquire wait mode⟩ with
      | none => rfl
      | some a =>
        obtain ⟨r, -, hcounter⟩ := b.counterpart?_checkedEvent? handle range wait mode ha
        simp [(Event.releases_of_counterpart?_eq_some hcounter).1]

end Guard

/-- Guards that are let go of one after the other release in that order. -/
theorem Step.requests_dropAll :
    ∀ {gs : List (Guard Recorder p)}, (∀ g ∈ gs, g.held = true) → ∀ s : Scripted p,
      requests ((dropAll gs).run s).2.events
        = requests s.events ++ gs.filterMap Guard.releaseEvent? := by
  intro gs
  induction gs with
  | nil => intro _ s; exact (List.append_nil _).symm
  | cons g rest ih =>
    intro held s
    rw [List.forall_mem_cons] at held
    show requests ((dropAll rest).run (g.drop.run s).2).2.events = _
    rw [ih held.2, Guard.requests_drop held.1, List.append_assoc]
    cases hr : g.releaseEvent? <;> simp [hr]

namespace Script

/-- What was asked of the system meanwhile, waits apart. -/
def Observation.requests (o : Observation p) : List (Event p) :=
  FileLocks.requests o.events

/-- What a step does with the slots, and what it asks for. -/
inductive SlotChange (s : State p) (move : Move p) (entry : Entry p) (next : State p) : Prop
  /-- A guard is made and kept; it will release exactly what was locked. -/
  | granted (slot : String) (g : Guard Recorder p) (a r : Event p)
      (claims : move.step.claims? = some slot) (answer : entry.answer = .granted g)
      (held : g.held = true) (asked : entry.seen.requests = [a])
      (counterpart : a.counterpart? = some r) (release : g.releaseEvent? = some r)
      (slots : next.slots = s.slots.insert slot g)
  /-- A request for a guard fails. -/
  | refused (slot : String) (f : Failure p) (claims : move.step.claims? = some slot)
      (answer : entry.answer = .report (.outcome (.error f)))
      (asked : entry.seen.requests.filter Event.releases = []) (slots : next.slots = s.slots)
  /-- A guard is unlocked or let go of. -/
  | freed (slot : String) (g : Guard Recorder p) (frees : move.step.frees? = some slot)
      (found : s.slots.find? slot = some g)
      (asked : g.held = true → entry.seen.requests = g.releaseEvent?.toList)
      (slots : next.slots = s.slots.erase slot)
  /-- An empty slot is to be emptied. -/
  | vacant (slot : String) (frees : move.step.frees? = some slot)
      (found : s.slots.find? slot = none) (asked : entry.seen.requests = [])
      (slots : next.slots = s.slots)
  /-- The step is about no slot, or only looks at one. -/
  | untouched (claims : move.step.claims? = none) (frees : move.step.frees? = none)
      (asked : move.step.isInvocation = false → entry.seen.requests = [])
      (slots : next.slots = s.slots)

/-- To keep a guard in an empty slot asks for nothing. -/
theorem keep_ok_of_vacant {slots : Slots Recorder p} {slot : String}
    (vacant : slots.find? slot = none) (g : Guard Recorder p) (s : Scripted p) :
    (Step.keep slots slot (.ok g)).run s = ((.granted g, slots.insert slot g), s) := by
  simp only [Step.keep, vacant]
  rfl

theorem slotChange_of_claims (s : State p) (move : Move p) {slot : String}
    (claims : move.step.claims? = some slot) (vacant : s.slots.find? slot = none) :
    SlotChange s move (s.advance move).1 (s.advance move).2 := by
  obtain ⟨b, handle, wait, range, mode, hperform⟩ :=
    Step.perform_of_claims (σ := Scripted p) s.slots claims
  have hrun : ∀ system : Scripted p, (move.step.perform s.slots).run system
      = (Step.keep s.slots slot
          ((Guard.acquire b handle wait range mode).run system).1).run
          ((Guard.acquire b handle wait range mode).run system).2 := by
    intro system
    rw [hperform]
    rfl
  unfold State.advance
  rw [hrun]
  rcases Guard.run_acquire_cases b handle wait range mode
      (Scripted.fresh s.lastCode move.replies) with
    ⟨g, a, r, hanswer, held, hasked, hcounter, hrelease⟩ | ⟨f, es, hanswer, hasked, hes⟩
  · rw [hanswer, keep_ok_of_vacant vacant]
    exact .granted slot g a r claims rfl held hasked hcounter hrelease rfl
  · rw [hanswer]
    refine .refused slot f claims rfl ?_ rfl
    rw [← hes]
    exact congrArg (List.filter Event.releases) hasked

theorem slotChange_of_frees (s : State p) (move : Move p) {slot : String}
    (frees : move.step.frees? = some slot) :
    SlotChange s move (s.advance move).1 (s.advance move).2 := by
  obtain ⟨step, replies⟩ := move
  cases hfound : s.slots.find? slot with
  | none =>
    cases step with
    | unlock =>
      cases frees
      refine .vacant slot rfl hfound ?_ ?_
      all_goals simp only [State.advance, Step.perform, hfound]; rfl
    | drop =>
      cases frees
      refine .vacant slot rfl hfound ?_ ?_
      all_goals simp only [State.advance, Step.perform, hfound]; rfl
    | invoke | lock | tryLock | guard | info => cases frees
  | some g =>
    cases step with
    | unlock =>
      cases frees
      refine .freed slot g rfl hfound (fun _ => ?_) ?_
      all_goals simp only [State.advance, Step.perform, hfound]
      · exact g.requests_unlock _
      · rfl
    | drop =>
      cases frees
      refine .freed slot g rfl hfound (fun held => ?_) ?_
      all_goals simp only [State.advance, Step.perform, hfound]
      · exact g.requests_drop held _
      · rfl
    | invoke | lock | tryLock | guard | info => cases frees

/-- There are no other cases, if guards are put into empty slots only. -/
theorem advance_slotChange (s : State p) (move : Move p)
    (vacant : ∀ slot, move.step.claims? = some slot → s.slots.find? slot = none) :
    SlotChange s move (s.advance move).1 (s.advance move).2 := by
  cases hclaims : move.step.claims? with
  | some slot => exact slotChange_of_claims s move hclaims (vacant slot hclaims)
  | none =>
    cases hfrees : move.step.frees? with
    | some slot => exact slotChange_of_frees s move hfrees
    | none =>
      obtain ⟨step, replies⟩ := move
      cases step with
      | invoke => exact .untouched rfl rfl (fun h => by cases h) rfl
      | info slot =>
        refine .untouched rfl rfl (fun _ => ?_) ?_
        all_goals
          simp only [State.advance, Step.perform]
          cases s.slots.find? slot <;> rfl
      | lock | tryLock | guard => cases hclaims
      | unlock | drop => cases hfrees

end Script

end FileLocks
