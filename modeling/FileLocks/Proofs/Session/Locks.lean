/-
  FileLocks/Proofs/Session/Locks.lean
  ===================================
  **Locks exclude each other, whatever a session does.**

  Every action keeps a session sound (`Change.sound`), hence every run does.  The
  locks that anybody has at any time are then consistent, also while a forked child
  is at work, and requests come to what a manager of bytes would have them come to.
-/
import FileLocks.Proofs.Session.Changes

namespace FileLocks.Session

/-! ### Sound runs -/

theorem sound_initial : initial.Sound :=
  ⟨Kernel.sound_initial, rfl, nofun⟩

theorem Change.sound {s next : Session} {action : Action} {answer : Answer}
    (change : Change s action answer next) (hs : s.Sound) : next.Sound := by
  cases change with
  | invoked invocation o process served =>
    exact ⟨served.sound hs.kernel, served.self_eq.trans hs.self, hs.held⟩
  | granted step slot wait g process claims vacant held served =>
    exact ⟨served.sound hs.kernel, served.self_eq.trans hs.self,
      Slots.Held.insert hs.held slot held⟩
  | displaced step slot wait g old between process o claims found held served released =>
    exact ⟨released.sound (served.sound hs.kernel),
      released.self_eq.trans (served.self_eq.trans hs.self),
      Slots.Held.insert hs.held slot held⟩
  | refused step slot scope r f process claims served =>
    exact ⟨served.sound hs.kernel, served.self_eq.trans hs.self, hs.held⟩
  | looked => exact hs
  | freed step slot g answer o process frees found released =>
    exact ⟨released.sound hs.kernel, released.self_eq.trans hs.self,
      Slots.Held.erase hs.held slot⟩
  | vacant => exact hs
  | opened action name number kernel opens adds =>
    exact ⟨adds.sound hs.kernel, hs.self, hs.held⟩
  | closed name number kernel found closes =>
    exact ⟨hs.kernel.close closes, hs.self, hs.held⟩
  | failed => exact hs
  | child invocation o served =>
    have hchild := served.sound hs.kernel
    exact ⟨⟨hchild.consistent.dropOwner .child, hchild.numbers⟩, hs.self, hs.held⟩

theorem Sound.advance {s : Session} (hs : s.Sound) (action : Action) :
    (s.advance action).2.Sound :=
  (advance_change hs action).sound hs

theorem Sound.run {s : Session} (hs : s.Sound) (actions : List Action) :
    (s.run actions).2.Sound :=
  runAll_keeps (fun _ action h => h.advance action) hs actions

theorem sound_run_initial (actions : List Action) : (initial.run actions).2.Sound :=
  sound_initial.run actions

/-- What a child leaves behind before it ends is sound too. -/
theorem Sound.forked {s : Session} (hs : s.Sound)
    (invocation : Invocation Empty .posix Target) : (s.forked invocation).kernel.Sound := by
  obtain ⟨o, -, hserved⟩ := served_child hs invocation
  exact hserved.sound hs.kernel

/-! ### Exclusion -/

/-- The locks at a state of a session: as they are there, or while a child is at
    work that has made a request. -/
def locksWhile (s : Session) : Option (Invocation Empty .posix Target) → LockTable
  | none => s.process.kernel.locks
  | some invocation => (s.forked invocation).kernel.locks

/-- **Mutual exclusion.**  At every state that a session reaches, and while a child
    is at work there, locks of two owners have a byte in common only if both are
    shared.  The locks of one owner are non-empty spans of bytes that can be locked
    and have no byte in common, so no owner has two modes on a byte. -/
theorem locks_exclude (actions : List Action)
    (working? : Option (Invocation Empty .posix Target)) :
    let locks := (initial.run actions).2.locksWhile working?
    (∀ l ∈ locks, ∀ l' ∈ locks, l.owner ≠ l'.owner → ∀ b, b ∈ l.span → b ∈ l'.span →
      l.mode = .shared ∧ l'.mode = .shared) ∧
    (∀ l ∈ locks, l.span.first ≤ l.span.last ∧ l.span.last ≤ lastByte) ∧
    (locks.Pairwise fun l l' => l.owner = l'.owner → ∀ b, b ∈ l.span → b ∉ l'.span) ∧
    ∀ l ∈ locks, ∀ l' ∈ locks, l.owner = l'.owner → ∀ b, b ∈ l.span → b ∈ l'.span →
      l.mode = l'.mode := by
  intro locks
  have hs := sound_run_initial actions
  have hlocks : locks.Consistent := by
    cases working? with
    | none => exact hs.kernel.consistent
    | some invocation => exact (hs.forked invocation).consistent
  refine ⟨hlocks.compatible, ?_, hlocks.apart, ?_⟩
  · intro l _
    exact ⟨l.span.first_le_last, l.span.last_le_lastByte⟩
  intro l hl l' hl' howner b hb hb'
  have hmode := hlocks.modeAt_of_mem hl hb
  rw [howner, hlocks.modeAt_of_mem hl' hb'] at hmode
  exact (Option.some.inj hmode).symm

/-! ### Requests -/

/-- **Requests are answered byte by byte.**  At every state that a session reaches,
    a request of the process conforms, and so does a request of a child, whose own
    locks are gone when it has ended. -/
theorem requests_conform (actions : List Action) (invocation : Invocation Empty .posix Target) :
    let s := (initial.run actions).2
    let r := (invocation.mapFile s.resolve).asked
    (∃ o, (s.advance (.step (.invoke invocation))).1 = .step (.report (invocation.reports o)) ∧
      s.process.kernel.Conforms .process invocation.lockScope r o
        (s.advance (.step (.invoke invocation))).2.process.kernel) ∧
    ∃ o, (s.advance (.child invocation)).1 = .child o.toCode ∧
      s.process.kernel.Conforms .child invocation.lockScope r o (s.forked invocation).kernel ∧
      ∀ owner b, (s.advance (.child invocation)).2.process.kernel.view owner b
        = if owner = .child then none else (s.forked invocation).kernel.view owner b := by
  intro s r
  have hs : s.Sound := sound_run_initial actions
  constructor
  · obtain ⟨o, hanswer, hserved⟩ := served_invoke hs invocation
    have hconforms := hserved.conforms
    rw [hs.self] at hconforms
    exact ⟨o, hanswer, hconforms⟩
  · obtain ⟨o, hanswer, hserved⟩ := served_child hs invocation
    exact ⟨o, hanswer, hserved.conforms, fun owner b => LockTable.modeAt_dropOwner _ _ _ _⟩

end FileLocks.Session
