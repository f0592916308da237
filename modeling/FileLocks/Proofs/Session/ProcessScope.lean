/-
  FileLocks/Proofs/Session/ProcessScope.lean
  ==========================================
  **A process does not stand in its own way.**

  Who holds a byte after an action held it before, or has asked for it
  (`held_or_asked`).  If nobody uses the locks of descriptions, then nobody asks but the
  process and its children, and of children nothing stays.  The process is the only owner
  in the table between actions (`Alone.run`), so none of its requests meets a conflict,
  through whatever descriptors of the file it makes them.
-/
import FileLocks.Proofs.Session.Independence
import FileLocks.Proofs.Session.Outcomes
import FileLocks.Proofs.Session.Protection
import FileLocks.Proofs.Session.Waiting

namespace FileLocks.Session

variable {s : Session} {action : Action} {d : Demand} {o : Owner} {b : Nat} {m : Mode}

/-! ### Where locks come from -/

/-- To let go of a displaced guard gives nothing to anybody. -/
theorem held_of_clearPlace {p : Process} (hp : p.kernel.Sound) {slots : Slots Empty .posix}
    (held : slots.Held) {step : Step Empty .posix (Handle .posix)} {result : Outcome .posix}
    (h : ((step.clearPlace slots result).run p).2.kernel.view o b = some m) :
    p.kernel.view o b = some m := by
  rcases clearPlace_cases hp held step result with hsame | ⟨-, old, o', -, hmet⟩
  · rw [hsame] at h
    exact h
  · rcases hmet.held_or_reached h with hbefore | ⟨hacquires, -⟩
    · exact hbefore
    · cases hacquires

/-- Nothing is locked without a request. -/
theorem held_of_demand?_eq_none (hs : s.Sound) (demand : s.demand? action = none)
    (h : (s.advance action).2.process.kernel.view o b = some m) :
    s.process.kernel.view o b = some m := by
  by_cases hends : s.Ends o action
  · -- only to close a file ends locks, and it leaves none that were not there
    cases action with
    | close name =>
      have hchange := advance_change hs (.close name)
      generalize s.advance (.close name) = after at hchange h
      obtain ⟨answer, next⟩ := after
      cases hchange with
      | opened _ _ _ _ opens => cases opens
      | closed _ number kernel _ closes =>
        have hheld : kernel.view o b = some m := h
        rcases Kernel.view_close closes o b with hnone | hsame
        · rw [hnone] at hheld
          cases hheld
        · rw [hsame] at hheld
          exact hheld
      | failed => exact h
    | step | openFile | dup | child => cases hends
  · rw [view_advance_of_demand?_eq_none hs demand hends] at h
    exact h

/-- Who holds a byte after an action held it before, or the action asks for it. -/
theorem held_or_asked (hs : s.Sound) (parent : o ≠ .child)
    (h : (s.advance action).2.process.kernel.view o b = some m) :
    s.process.kernel.view o b = some m ∨ s.Asks action o b m := by
  cases action with
  | step step =>
    cases hdemand : s.demand? (.step step) with
    | none => exact Or.inl (held_of_demand?_eq_none hs hdemand h)
    | some d =>
      rcases Option.map_eq_some_iff.mp hdemand with ⟨⟨route, r⟩, hentry, rfl⟩
      have hserved := Process.served_route hs.kernel route r
      have hmet : Demand.Met ⟨.process, route.lockScope, r⟩ s.process.kernel _ _ :=
        hs.self ▸ hserved.conforms
      rw [advance_of_enters hs.held hentry] at h
      have hbetween := held_of_clearPlace (hserved.sound hs.kernel) hs.held h
      rcases hmet.held_or_reached hbetween with hbefore | hreached
      · exact Or.inl hbefore
      · exact Or.inr ⟨_, hdemand, hreached⟩
  | child invocation =>
    obtain ⟨result, -, hserved⟩ := served_child hs invocation
    have hmet : Demand.Met ⟨.child, invocation.lockScope, (invocation.mapFile s.resolve).asked⟩
      s.process.kernel result (s.forked invocation).kernel := hserved.conforms
    rw [view_advance_child, if_neg parent] at h
    rcases hmet.held_or_reached h with hbefore | hreached
    · exact Or.inl hbefore
    · exact Or.inr ⟨_, rfl, hreached⟩
  | openFile | dup | close => exact Or.inl (held_of_demand?_eq_none hs rfl h)

/-! ### Process scope -/

/-- Nobody asks for the locks of a description in the action. -/
def Action.InProcessScope : Action → Prop
  | .step (.invoke invocation) => invocation.lockScope = .process
  | .step (.guard _ backend _ _ _ _) => backend.lockScope = .process
  | .child invocation => invocation.lockScope = .process
  | _ => True

instance : (action : Action) → Decidable action.InProcessScope
  | .step (.invoke invocation) => inferInstanceAs (Decidable (invocation.lockScope = .process))
  | .step (.guard _ backend _ _ _ _) => inferInstanceAs (Decidable (backend.lockScope = .process))
  | .child invocation => inferInstanceAs (Decidable (invocation.lockScope = .process))
  | .step (.lock _ _ _ _) | .step (.tryLock _ _ _ _) | .step (.info _) | .step (.unlock _)
  | .step (.drop _) | .openFile _ _ | .dup _ _ | .close _ => isTrue trivial

/-- A step is the parent's. -/
theorem asker_eq_process {step : Step Empty .posix Target}
    (demand : s.demand? (.step step) = some d) : d.asker = .process := by
  rcases Option.map_eq_some_iff.mp demand with ⟨⟨route, r⟩, -, rfl⟩
  rfl

/-- What is locked in the action is locked for the one who asks. -/
theorem Action.InProcessScope.scope_eq (h : action.InProcessScope)
    (demand : s.demand? action = some d) (acquires : d.request.operation.leaves = some m) :
    d.scope = .process := by
  cases action with
  | step step =>
    rcases Option.map_eq_some_iff.mp demand with ⟨⟨route, r⟩, entry, rfl⟩
    cases step with
    | invoke invocation =>
      cases entry
      exact (invocation.lockScope_mapFile s.resolve).trans h
    | lock | tryLock =>
      cases entry
      rfl
    | guard =>
      cases entry
      exact h
    | info => cases entry
    | unlock slot | drop slot =>
      rcases Option.map_eq_some_iff.mp entry with ⟨g, -, hentry⟩
      cases hentry
      cases acquires
  | child invocation =>
    cases demand
    exact h
  | openFile | dup | close => cases demand

/-- All that is locked is locked for the process. -/
def Alone (s : Session) : Prop :=
  ∀ o b m, s.process.kernel.view o b = some m → o = .process

theorem alone_initial : initial.Alone := nofun

theorem Alone.advance (h : s.Alone) (rest : s.AtRest) (inScope : action.InProcessScope) :
    (s.advance action).2.Alone := by
  intro o b m hheld
  have hparent : o ≠ .child := by
    rintro rfl
    rw [(rest.advance action).childless] at hheld
    cases hheld
  rcases held_or_asked rest.sound hparent hheld with hbefore | ⟨d, hdemand, hacquires, hreaches⟩
  · exact h o b m hbefore
  · -- whoever asks does so for itself, and it is not a child
    rcases Option.map_eq_some_iff.mp hreaches.1 with ⟨desc, -, howner⟩
    rw [inScope.scope_eq hdemand hacquires] at howner
    cases action with
    | step step => exact howner.symm.trans (asker_eq_process hdemand)
    | child invocation =>
      cases hdemand
      exact absurd howner.symm hparent
    | openFile | dup | close => cases hdemand

theorem Alone.run (h : s.Alone) (rest : s.AtRest) {actions : List Action}
    (inScope : ∀ action ∈ actions, action.InProcessScope) : (s.run actions).2.Alone := by
  have step : ∀ (s : Session) (action : Action), s.Alone ∧ s.AtRest → action.InProcessScope →
      (s.advance action).2.Alone ∧ (s.advance action).2.AtRest := by
    rintro s action ⟨h, rest⟩ hscope
    exact ⟨h.advance rest hscope, rest.advance action⟩
  exact (Along.keeps step ⟨h, rest⟩ (Along.of_forall_mem fun a ha _ => inScope a ha)).1

/-! ### Requests of the process -/

/-- A process that is alone is not in anybody's way. -/
theorem Alone.not_blocks (h : s.Alone) (mode : Mode) (range : ByteRange) :
    ¬ s.process.kernel.view.Blocks .process mode range := by
  rintro ⟨b, -, o, hother, m, hheld, -⟩
  exact hother (h o b m hheld)

theorem Alone.not_isTransient (h : s.Alone) {step : Step Empty .posix Target}
    (inScope : (Action.step step).InProcessScope) (demand : s.demand? (.step step) = some d)
    {k : Kernel} {f : Failure .posix} (met : d.Met s.process.kernel (.error f) k) :
    f.kind.isTransient = false := by
  by_contra htransient
  obtain ⟨-, hrefuses⟩ := met.refused f.code rfl
  obtain ⟨desc, wait, mode, -, hacquires, -, -, hblocks⟩ :=
    hrefuses.blocks_of_isTransient (Bool.not_eq_false _ ▸ htransient)
  have hleaves : d.request.operation.leaves = some mode := by
    rw [hacquires]
    rfl
  rw [inScope.scope_eq demand hleaves, asker_eq_process demand] at hblocks
  exact h.not_blocks mode d.request.range hblocks

/-- **A process does not stand in its own way.**  In a session in which nobody uses the
    locks of descriptions, only the process has locks between its actions, through however
    many descriptors and descriptions it has set them, and whatever its children have
    locked meanwhile.  None of its requests is then refused as a conflict or cut short, and
    one that locks succeeds if and only if its file is open, its range is accepted, and the
    access is sufficient. -/
theorem process_never_blocks_itself (before : List Action)
    (inScope : ∀ action ∈ before, action.InProcessScope) :
    let s := (initial.run before).2
    (∀ l ∈ s.process.kernel.locks, l.owner = .process) ∧
    ∀ step d, (Action.step step).InProcessScope → s.demand? (.step step) = some d →
      ¬ (s.advance (.step step)).1.Reports .wouldBlock ∧
      ¬ (s.advance (.step step)).1.Reports .interrupted ∧
      ∀ wait mode, d.request.operation = .acquire wait mode →
        ((s.advance (.step step)).1.Succeeds ↔
          ∃ desc, s.process.kernel.descriptorOf? d.request.handle = some desc ∧
            d.request.range.Acceptable ∧ desc.access.allows mode = true) := by
  intro s
  have hrest : s.AtRest := atRest_initial.run before
  have halone : s.Alone := alone_initial.run atRest_initial inScope
  constructor
  · intro l hl
    exact halone _ _ _ (hrest.sound.kernel.consistent.modeAt_first hl)
  · intro step d hscope hdemand
    obtain ⟨result, k, hserves⟩ := exists_serves hrest.sound hdemand
    have hpermanent : ∀ kind : FailureKind, kind.isTransient = true →
        ¬ (s.advance (.step step)).1.Reports kind := by
      rintro kind htransient ⟨code, hcode, rfl⟩
      rw [hserves.answer] at hcode
      obtain rfl := eq_toCode_of_shows hcode
      cases result with
      | ok => cases htransient
      | error f =>
        have hkind : f.kind.isTransient = true := htransient
        rw [halone.not_isTransient hscope hdemand hserves.met] at hkind
        cases hkind
    refine ⟨hpermanent .wouldBlock rfl, hpermanent .interrupted rfl, ?_⟩
    intro wait mode hacquires
    have hleaves : d.request.operation.leaves = some mode := by
      rw [hacquires]
      rfl
    have hresult : (s.advance (.step step)).1.Succeeds ↔ result = .ok () :=
      ⟨hserves.acquired mode hleaves, hserves.succeeds⟩
    rw [hresult, hserves.met.succeeds_iff, hacquires, hscope.scope_eq hdemand hleaves,
      asker_eq_process hdemand]
    refine exists_congr fun desc => and_congr_right fun _ => and_congr_right fun _ => ?_
    exact and_iff_left (halone.not_blocks mode d.request.range)

/-- A process that has locked all of the file through one description, and also opened it
    for reading. -/
def lockedWhole : List Action :=
  [.openFile "a" .readWrite, .openFile "r" .readOnly, .dup "a" "c",
    .child (.request (.checked (.fcntl .process)) (.file "c") .wholeFile
      (.acquire .nonblocking .exclusive)),
    .step (.guard "x" (.reference (.fcntl .process)) (.file "c") .blocking .wholeFile .exclusive),
    .child (.acquireCode (.file "a") true 0 0 true)]

/-- It may share a byte of that through the other description, and is refused only for its
    access. -/
theorem reader_shares_own_byte :
    let s := (initial.run lockedWhole).2
    let share : Step Empty .posix Target := .tryLock "y" (.file "r") ⟨5, 1⟩ .shared
    let write : Step Empty .posix Target := .invoke (.acquireCode (.file "r") true 5 1 false)
    (∀ action ∈ lockedWhole, action.InProcessScope) ∧
      s.process.kernel.view .process 5 = some .exclusive ∧
      (s.advance (.step share)).1.Succeeds ∧ ¬ (s.advance (.step write)).1.Succeeds ∧
      ¬ (s.advance (.step write)).1.Reports .interrupted := by
  intro s share write
  have hscoped : ∀ action ∈ lockedWhole, action.InProcessScope := by decide
  have hrequests := (process_never_blocks_itself lockedWhole hscoped).2
  have hwanted : s.demand? (.step share)
      = some ⟨.process, .process, .descriptor 4, ⟨5, 1⟩, .acquire .nonblocking .shared⟩ := by
    decide +kernel
  have hrefused : s.demand? (.step write)
      = some ⟨.process, .process, .descriptor 4, ⟨5, 1⟩, .acquire .blocking .exclusive⟩ := by
    decide +kernel
  have hshare := (hrequests share _ trivial hwanted).2.2 .nonblocking .shared rfl
  have hwrite := (hrequests write _ rfl hrefused).2
  have hinterrupted := hwrite.1
  refine ⟨hscoped, by decide +kernel, ?_, ?_, hinterrupted⟩
  · rw [hshare]
    exact ⟨⟨4, 1, .readOnly⟩, by decide +kernel, by decide +kernel, rfl⟩
  · have hreader : s.process.kernel.descriptorOf? (.descriptor 4) = some ⟨4, 1, .readOnly⟩ := by
      decide +kernel
    rw [hwrite.2 .blocking .exclusive rfl, hreader]
    rintro ⟨desc, hdesc, -, hallows⟩
    cases hdesc
    cases hallows

end FileLocks.Session
