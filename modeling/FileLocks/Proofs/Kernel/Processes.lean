/-
  FileLocks/Proofs/Kernel/Processes.lean
  ======================================
  **Requests of a process.**

  Backends, routes and guards all come down to one request to the kernel, with the
  scope of a backend.  `Process.Answered` says how a process finds itself after one, and
  `Process.Served` says it of a sound kernel, byte by byte.  Whether a handle is checked on
  the way does not show: a kernel that gives out no negative numbers refuses what the
  check refuses, with the same code.
-/
import FileLocks.Proofs.Entries
import FileLocks.Proofs.Kernel.Requests

namespace FileLocks

open Posix (Scope encode)

/-! ### Scopes -/

/-- The scope of the locks that a backend sets.  Without backends of a caller's own
    every backend has one (`Backend.scope?_eq_some`). -/
def Backend.lockScope (b : Backend Empty .posix) : Scope :=
  b.scope?.getD .process

theorem Backend.scope?_eq_some : ∀ b : Backend Empty .posix, b.scope? = some b.lockScope
  | fcntl _ => rfl
  | custom own => own.elim
  | reference target => scope?_eq_some target

/-- The scope of the locks that are set on a route. -/
def Route.lockScope : Route Empty .posix → Scope
  | default => (Backend.system .posix : Backend Empty .posix).lockScope
  | checked backend => backend.lockScope
  | bare backend => backend.lockScope

namespace Invocation

variable {τ : Type}

/-- The scope of the lock that is asked for. -/
def lockScope (invocation : Invocation Empty .posix τ) : Scope :=
  invocation.route.lockScope

@[simp] theorem lockScope_mapFile {υ : Type} (f : τ → υ)
    (invocation : Invocation Empty .posix τ) :
    (invocation.mapFile f).lockScope = invocation.lockScope :=
  congrArg Route.lockScope (invocation.route_mapFile f)

theorem toCode_reports (invocation : Invocation Empty .posix τ) (o : Outcome .posix) :
    (invocation.reports o).toCode = o.toCode := by
  cases invocation <;> rfl

end Invocation

/-! ### Being served -/

/-- The outcome of a request, and the kernel after it, are those of a manager of
    bytes. -/
structure Kernel.Conforms (before : Kernel) (asker : Owner) (scope : Scope)
    (r : Request .posix) (o : Outcome .posix) (after : Kernel) : Prop where
  succeeds_iff : o = .ok () ↔
    before.view.Admits asker scope (before.descriptorOf? r.handle) r.range r.operation
  /-- Success writes the bytes of the range for the owner, and nothing else. -/
  written : o = .ok () → ∃ d, before.descriptorOf? r.handle = some d ∧
    after.view = before.view.write (ownerOf asker d scope) r.range r.operation.leaves
  /-- Failure has the code of the first rule that forbids the request, and changes
      nothing. -/
  refused : ∀ code, o = .error ⟨code⟩ → after = before ∧
    before.view.Refuses asker scope r.range (before.descriptorOf? r.handle) r.operation code
  descriptors : after.descriptors = before.descriptors

theorem Kernel.descriptorOf?_eq_of_descriptors {k k' : Kernel}
    (h : k'.descriptors = k.descriptors) (handle : Handle .posix) :
    k'.descriptorOf? handle = k.descriptorOf? handle := by
  obtain ⟨number⟩ := handle
  simp only [descriptorOf?, descriptor?, h]

namespace Process

/-- A process sees what its kernel answers to a request, and has the kernel that the
    answer leaves.  The code of the last failed call may change with a failure only. -/
inductive Answered (p : Process) (scope : Scope) (r : Request .posix) :
    Outcome .posix → Process → Prop
  | granted (kernel : Kernel) (answer : p.kernel.answer p.self (encode scope r) = .ok kernel) :
      Answered p scope r (.ok ()) { p with kernel }
  | refused (code errno : Int32)
      (answer : p.kernel.answer p.self (encode scope r) = .error code) :
      Answered p scope r (.error ⟨code⟩) { p with errno }

/-- A process sees an outcome of a request, and how the process is then, where the kernel
    answers as a manager of bytes does. -/
inductive Served (p : Process) (scope : Scope) (r : Request .posix) :
    Outcome .posix → Process → Prop
  | granted (kernel : Kernel) (responds : p.kernel.Responds p.self scope r (.ok kernel)) :
      Served p scope r (.ok ()) { p with kernel }
  | refused (code errno : Int32) (responds : p.kernel.Responds p.self scope r (.error code)) :
      Served p scope r (.error ⟨code⟩) { p with errno }

variable {p p' : Process} {scope : Scope} {r : Request .posix} {o : Outcome .posix}

theorem Answered.served (h : p.Answered scope r o p') (hp : p.kernel.Sound) :
    p.Served scope r o p' := by
  have hresponds := Kernel.responds_answer hp p.self scope r
  cases h with
  | granted kernel answer =>
    rw [answer] at hresponds
    exact .granted kernel hresponds
  | refused code errno answer =>
    rw [answer] at hresponds
    exact .refused code errno hresponds

theorem Served.self_eq (h : p.Served scope r o p') : p'.self = p.self := by
  cases h <;> rfl

theorem Served.descriptors_eq (h : p.Served scope r o p') :
    p'.kernel.descriptors = p.kernel.descriptors := by
  cases h with
  | granted kernel responds =>
    cases responds with
    | served _ _ _ _ descriptors => exact descriptors
  | refused => rfl

theorem Served.sound (h : p.Served scope r o p') (hp : p.kernel.Sound) : p'.kernel.Sound := by
  cases h with
  | granted kernel responds =>
    cases responds with
    | served _ _ _ _ _ sound => exact sound
  | refused => exact hp

theorem Served.conforms (h : p.Served scope r o p') :
    p.kernel.Conforms p.self scope r o p'.kernel := by
  have hdescriptors := h.descriptors_eq
  cases h with
  | granted kernel responds =>
    cases responds with
    | served d _ found admits _ _ view =>
      refine ⟨⟨fun _ => found ▸ admits, fun _ => rfl⟩, fun _ => ⟨d, found, view⟩, nofun, ?_⟩
      exact hdescriptors
  | refused code errno responds =>
    cases responds with
    | refused _ refuses =>
      refine ⟨⟨nofun, fun admits => absurd admits refuses.not_admits⟩, nofun, ?_, hdescriptors⟩
      intro code' hcode
      cases hcode
      exact ⟨rfl, refuses⟩

/-- What a served request leaves on the bytes, told from the descriptor. -/
theorem Served.view_eq (h : p.Served scope r (.ok ()) p') {d : Descriptor}
    (found : p.kernel.descriptorOf? r.handle = some d) :
    p'.kernel.view
      = p.kernel.view.write (Kernel.ownerOf p.self d scope) r.range r.operation.leaves := by
  rcases h.conforms.written rfl with ⟨d', found', hview⟩
  obtain rfl := Option.some.inj (found'.symm.trans found)
  exact hview

theorem Served.descriptorOf?_eq (h : p.Served scope r o p') (handle : Handle .posix) :
    p'.kernel.descriptorOf? handle = p.kernel.descriptorOf? handle :=
  Kernel.descriptorOf?_eq_of_descriptors h.descriptors_eq handle

/-- A handle that the check refuses names nothing that is open. -/
theorem descriptorOf?_eq_none {k : Kernel} (numbers : ∀ d ∈ k.descriptors, 0 ≤ d.number)
    {h : Handle .posix} (hvalid : h.isValid = false) : k.descriptorOf? h = none := by
  obtain ⟨number⟩ := h
  have hnegative : ¬ 0 ≤ number := of_decide_eq_false hvalid
  apply List.find?_eq_none.mpr
  intro d hd hnumber
  apply hnegative
  rw [← beq_iff_eq.mp hnumber]
  exact numbers d hd

/-- A call is answered by the kernel, and its return value tells which way. -/
theorem run_submit (scope : Scope) (r : Request .posix) (p : Process) :
    (Posix.submit scope r).run p
      = match p.kernel.answer p.self (encode scope r) with
        | .ok kernel => (.ok (), { p with kernel })
        | .error code => (.error ⟨code⟩, { p with errno := code }) := by
  have hask : (System.ask (encode scope r)).run p = Process.ask (encode scope r) p := rfl
  unfold Process.ask at hask
  cases hanswer : p.kernel.answer p.self (encode scope r) with
  | ok kernel =>
    rw [hanswer] at hask
    simp only [Posix.submit, Call.perform, StateT.run_bind, hask]
    rfl
  | error code =>
    rw [hanswer] at hask
    simp only [Posix.submit, Call.perform, StateT.run_bind, hask]
    rfl

theorem answered_submit (p : Process) : ∀ (b : Backend Empty .posix) (r : Request .posix),
    p.Answered b.lockScope r ((b.submit r).run p).1 ((b.submit r).run p).2
  | .fcntl scope, r => by
    show p.Answered scope r ((Posix.submit scope r).run p).1 ((Posix.submit scope r).run p).2
    rw [run_submit]
    cases hanswer : p.kernel.answer p.self (encode scope r) with
    | ok kernel => exact .granted kernel hanswer
    | error code => exact .refused code code hanswer
  | .custom own, _ => own.elim
  | .reference target, r => answered_submit p target r

/-- What the check of a handle refuses, the kernel refuses too, with the same code. -/
theorem answered_perform (numbers : ∀ d ∈ p.kernel.descriptors, 0 ≤ d.number)
    (b : Backend Empty .posix) (r : Request .posix) :
    p.Answered b.lockScope r ((b.perform r).run p).1 ((b.perform r).run p).2 := by
  cases hvalid : r.handle.isValid with
  | true =>
    rw [b.perform_of_isValid hvalid]
    exact answered_submit p b r
  | false =>
    rw [b.perform_of_not_isValid hvalid]
    refine .refused Errno.EBADF p.errno ?_
    rw [Kernel.answer_encode, descriptorOf?_eq_none numbers hvalid]

theorem answered_route (numbers : ∀ d ∈ p.kernel.descriptors, 0 ≤ d.number)
    (route : Route Empty .posix) (r : Request .posix) :
    p.Answered route.lockScope r ((route.perform r).run p).1 ((route.perform r).run p).2 := by
  cases route with
  | default =>
    obtain ⟨handle, range, operation⟩ := r
    cases operation with
    | acquire wait mode => exact answered_perform numbers (.system .posix) _
    | release => exact answered_perform numbers (.system .posix) _
  | checked b => exact answered_perform numbers b r
  | bare b => exact answered_submit p b r

theorem served_perform (hp : p.kernel.Sound) (b : Backend Empty .posix) (r : Request .posix) :
    p.Served b.lockScope r ((b.perform r).run p).1 ((b.perform r).run p).2 :=
  (answered_perform hp.numbers b r).served hp

theorem served_route (hp : p.kernel.Sound) (route : Route Empty .posix) (r : Request .posix) :
    p.Served route.lockScope r ((route.perform r).run p).1 ((route.perform r).run p).2 :=
  (answered_route hp.numbers route r).served hp

/-- Typed or plain, a request without a guard is one request to the kernel. -/
theorem served_invocation (hp : p.kernel.Sound)
    (invocation : Invocation Empty .posix (Handle .posix)) :
    ∃ o, (invocation.perform.run p).1 = invocation.reports o ∧
      p.Served invocation.lockScope invocation.asked o (invocation.perform.run p).2 := by
  rw [Invocation.perform_eq, StateT.run_map]
  exact ⟨_, rfl, served_route hp invocation.route invocation.asked⟩

/-! ### Guards -/

theorem served_acquire (hp : p.kernel.Sound) (b : Backend Empty .posix) (handle : Handle .posix)
    (wait : Wait) (range : ByteRange) (mode : Mode) :
    ∃ o, ((Guard.acquire b handle wait range mode).run p).1
        = o.map (fun _ => ⟨b, handle, range, mode, true⟩) ∧
      p.Served b.lockScope ⟨handle, range, .acquire wait mode⟩ o
        ((Guard.acquire b handle wait range mode).run p).2 :=
  ⟨_, rfl, served_perform hp b ⟨handle, range, .acquire wait mode⟩⟩

theorem served_unlock (hp : p.kernel.Sound) (g : Guard Empty .posix) :
    p.Served g.backend.lockScope g.releaseRequest (g.unlock.run p).1 (g.unlock.run p).2 :=
  served_perform hp g.backend g.releaseRequest

theorem served_drop (hp : p.kernel.Sound) {g : Guard Empty .posix} (held : g.held = true) :
    ∃ o, p.Served g.backend.lockScope g.releaseRequest o (g.drop.run p).2 := by
  unfold Guard.drop
  rw [if_pos held]
  exact ⟨_, served_perform hp g.backend g.releaseRequest⟩

end Process

end FileLocks
