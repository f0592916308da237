/-
  FileLocks/Proofs/Session/Outcomes.lean
  ======================================
  **What an action comes to, as a function of the kernel.**

  A session shows of an action what the kernel makes of its request
  (`Orderly.answer_advance`), and unless a guard is displaced it keeps the kernel that
  the request leaves.  A child shows the same and keeps none of its own locks
  (`Orderly.advance_child`).

  That the locks exclude each other is not needed for any of this.  It holds of a
  session whose locks were exchanged for any others (`withLocks`).
-/
import FileLocks.Proofs.Kernel.Outcomes
import FileLocks.Proofs.Session.Demands

namespace FileLocks

namespace Demand

/-- What the request comes to. -/
def outcome (d : Demand) (k : Kernel) : Outcome .posix :=
  k.outcome d.asker d.scope d.request

/-- The kernel after the request, granted or refused. -/
def after (d : Demand) (k : Kernel) : Kernel :=
  k.after d.asker d.scope d.request

theorem met_outcome {k : Kernel} (hk : k.Sound) (d : Demand) :
    d.Met k (d.outcome k) (d.after k) :=
  Kernel.conforms_outcome hk d.asker d.scope d.request

theorem toCode_outcome_eq_zero_iff {k : Kernel} (hk : k.Sound) (d : Demand) :
    (d.outcome k).toCode = 0 ↔ d.outcome k = .ok () :=
  (d.met_outcome hk).toCode_eq_zero_iff

end Demand

namespace Session

variable {s : Session} {action : Action} {d : Demand}

/-- All that makes a session sound, but for what the locks are. -/
structure Orderly (s : Session) : Prop where
  numbers : ∀ d ∈ s.process.kernel.descriptors, 0 ≤ d.number
  self : s.process.self = .process
  held : s.slots.Held

theorem Sound.orderly (h : s.Sound) : s.Orderly :=
  ⟨h.kernel.numbers, h.self, h.held⟩

/-- The session with other locks, and the same descriptors, files and guards. -/
def withLocks (s : Session) (locks : LockTable) : Session :=
  { s with process := { s.process with kernel := { s.process.kernel with locks } } }

theorem Orderly.withLocks (h : s.Orderly) (locks : LockTable) : (s.withLocks locks).Orderly :=
  ⟨h.numbers, h.self, h.held⟩

@[simp] theorem demand?_withLocks (s : Session) (locks : LockTable) (action : Action) :
    (s.withLocks locks).demand? action = s.demand? action := by
  cases action <;> rfl

@[simp] theorem shows_withLocks (s : Session) (locks : LockTable) (action : Action)
    (o : Outcome .posix) : (s.withLocks locks).shows action o = s.shows action o := by
  cases action <;> rfl

/-! ### Steps -/

theorem Orderly.answered_route (h : s.Orderly) (route : Route Empty .posix) (r : Request .posix) :
    let asked := (route.perform r).run s.process
    asked.1 = s.process.kernel.outcome .process route.lockScope r ∧
      asked.2.kernel = s.process.kernel.after .process route.lockScope r := by
  have hanswered := Process.answered_route h.numbers route r
  rw [← h.self]
  exact ⟨hanswered.outcome_eq, hanswered.kernel_eq⟩

/-- A step that displaces no guard leaves the kernel that its request leaves. -/
theorem Orderly.kernel_step (h : s.Orderly) {step : Step Empty .posix Target}
    (demand : s.demand? (.step step) = some d) (place : s.clears? (.step step) = none) :
    (s.advance (.step step)).2.process.kernel = d.after s.process.kernel := by
  rcases Option.map_eq_some_iff.mp demand with ⟨⟨route, r⟩, entry, rfl⟩
  have hplace : (step.mapFile s.resolve).displaces? s.slots = none := by
    rw [Step.displaces?, Step.claims?_mapFile]
    exact Option.map_eq_none_iff.mp place
  rw [advance_of_enters h.held entry]
  simp only [Step.clearPlace_of_displaces?_eq_none hplace]
  exact (h.answered_route route r).2

/-! ### Children -/

/-- A child makes its request as the parent would, but in its own name, and leaves no lock
    of its own behind. -/
theorem Orderly.advance_child (h : s.Orderly) (invocation : Invocation Empty .posix Target)
    (demand : s.demand? (.child invocation) = some d) :
    s.advance (.child invocation)
      = (.child (d.outcome s.process.kernel).toCode,
        { s with
          process :=
            { s.process with
              kernel :=
                { d.after s.process.kernel with
                  locks := (d.after s.process.kernel).locks.dropOwner .child } } }) := by
  cases demand
  have hrun := runChild_eq s.process (invocation.mapFile s.resolve)
  have hanswered := Process.answered_route (p := { s.process with self := .child }) h.numbers
    (invocation.mapFile s.resolve).route (invocation.mapFile s.resolve).asked
  dsimp only at hrun
  rw [Invocation.route_mapFile] at hanswered hrun
  rw [hanswered.outcome_eq, hanswered.kernel_eq] at hrun
  obtain ⟨hcode, hkernel⟩ := hrun
  simp only [advance, hcode, hkernel]
  rfl

/-! ### Answers -/

/-- What is seen of an action is what its request comes to. -/
theorem Orderly.answer_advance (h : s.Orderly) (demand : s.demand? action = some d) :
    (s.advance action).1 = s.shows action (d.outcome s.process.kernel) := by
  cases action with
  | step step =>
    rcases Option.map_eq_some_iff.mp demand with ⟨⟨route, r⟩, entry, rfl⟩
    rw [advance_of_enters h.held entry]
    dsimp only
    rw [(h.answered_route route r).1]
    rfl
  | child invocation =>
    rw [h.advance_child invocation demand]
    rfl
  | openFile | dup | close => cases demand

/-- With other locks an action makes the same request of another kernel. -/
theorem Orderly.answer_withLocks (h : s.Orderly) (demand : s.demand? action = some d)
    (locks : LockTable) :
    ((s.withLocks locks).advance action).1
      = s.shows action (d.outcome { s.process.kernel with locks }) := by
  have hdemand : (s.withLocks locks).demand? action = some d :=
    (demand?_withLocks s locks action).trans demand
  rw [(h.withLocks locks).answer_advance hdemand, shows_withLocks]
  rfl

end Session

end FileLocks
