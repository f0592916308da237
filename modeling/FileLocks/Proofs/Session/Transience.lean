/-
  FileLocks/Proofs/Session/Transience.lean
  ========================================
  **Which failures pass, and which stay.**

  A failure is transient if the same request may succeed later.  That is so just when
  locks of others are in the way (`Lock.Obstructs`): without them the request succeeds,
  so nothing else is wrong with it.  A failure that is not transient has to do with no
  lock at all, and no change of the locks helps.
-/
import FileLocks.Proofs.Session.Outcomes

namespace FileLocks

/-! ### Locks in the way -/

/-- The lock of another owner has a byte of the range, and one of the two modes is
    exclusive. -/
def Lock.Obstructs (l : Lock) (o : Owner) (mode : Mode) (range : ByteRange) : Prop :=
  l.owner ≠ o ∧ (∃ b, b ∈ l.span ∧ range.Covers b) ∧ (mode = .exclusive ∨ l.mode = .exclusive)

theorem Kernel.exists_obstructs_of_blocks {k : Kernel} {o : Owner} {mode : Mode}
    {range : ByteRange} (h : k.view.Blocks o mode range) :
    ∃ l ∈ k.locks, l.Obstructs o mode range := by
  obtain ⟨b, hcovers, o', hother, m, hmode, hexclusive⟩ := h
  obtain ⟨l, hl, rfl, rfl, hb⟩ := LockTable.exists_mem_of_modeAt hmode
  exact ⟨l, hl, hother, ⟨b, hb, hcovers⟩, hexclusive⟩

/-- There is no conflict where no lock is in the way. -/
theorem LockTable.conflicts_eq_false_of_not_obstructs {t : LockTable} {o : Owner} {mode : Mode}
    {range : ByteRange} {s : Span} (span : range.span = .ok s)
    (free : ∀ l ∈ t, ¬ l.Obstructs o mode range) : t.conflicts o mode s = false := by
  apply List.any_eq_false.mpr
  intro l hl hall
  simp only [Bool.and_eq_true, bne_iff_ne, ne_eq, Mode.conflictsWith_eq_true_iff] at hall
  obtain ⟨⟨hother, hoverlaps⟩, hexclusive⟩ := hall
  obtain ⟨b, hb, hbs⟩ := Span.overlaps_iff.mp hoverlaps
  exact free l hl ⟨hother, ⟨b, hb, (ByteRange.mem_span_iff span).mp hbs⟩, hexclusive⟩

namespace Session

variable {s : Session} {action : Action} {d : Demand}

theorem succeeds_shows_ok (s : Session) (action : Action) :
    (s.shows action (.ok ())).Succeeds := by
  cases action with
  | step step => exact Step.tells_tells _ _
  | child | openFile | dup | close => rfl

/-- Without the locks that are in the way, a request that meets a conflict succeeds. -/
theorem Sound.succeeds_withLocks (hs : s.Sound) (demand : s.demand? action = some d)
    {wait : Wait} {mode : Mode} {desc : Descriptor}
    (acquires : d.request.operation = .acquire wait mode)
    (found : s.process.kernel.descriptorOf? d.request.handle = some desc)
    (acceptable : d.request.range.Acceptable) (allows : desc.access.allows mode = true)
    {locks : LockTable} (kept : ∀ l ∈ locks, l ∈ s.process.kernel.locks ∧
      ¬ l.Obstructs (Kernel.ownerOf d.asker desc d.scope) mode d.request.range) :
    ((s.withLocks locks).advance action).1.Succeeds := by
  obtain ⟨span, hspan⟩ := ByteRange.exists_span_iff.mpr acceptable
  have hfree : locks.conflicts (Kernel.ownerOf d.asker desc d.scope) mode span = false := by
    apply LockTable.conflicts_eq_false_of_not_obstructs hspan
    intro l hl
    exact (kept l hl).2
  have hok : d.outcome { s.process.kernel with locks } = .ok () :=
    Kernel.outcome_of_no_conflict ((Kernel.descriptorOf?_withLocks _ _ _).trans found) hspan
      acquires allows hfree
  rw [hs.orderly.answer_withLocks demand locks, hok]
  exact succeeds_shows_ok _ _

/-- **Transient failures pass, and no others.**  At every state that a session reaches, an
    action shows what its request comes to.  No release fails in a transient way.  If a
    request to lock does, then its file is open, its range is accepted and the access is
    sufficient, but a lock of another owner is in the way; and the same action succeeds as
    soon as no such lock is left.  If a request fails in a way that is not transient, then
    the same action shows the same failure whatever is locked by whom. -/
theorem transient_failures_pass (before : List Action) (action : Action) (d : Demand) :
    let s := (initial.run before).2
    let k := s.process.kernel
    s.demand? action = some d →
    (s.advance action).1 = s.shows action (d.outcome k) ∧
    ∀ f, d.outcome k = .error f →
      (d.request.operation = .release → f.kind.isTransient = false) ∧
      (f.kind.isTransient = true →
        ∃ wait mode desc, d.request.operation = .acquire wait mode ∧
          k.descriptorOf? d.request.handle = some desc ∧ d.request.range.Acceptable ∧
          desc.access.allows mode = true ∧
          (∃ l ∈ k.locks,
            l.Obstructs (Kernel.ownerOf d.asker desc d.scope) mode d.request.range) ∧
          ∀ locks : LockTable, (∀ l ∈ locks, l ∈ k.locks ∧
              ¬ l.Obstructs (Kernel.ownerOf d.asker desc d.scope) mode d.request.range) →
            ((s.withLocks locks).advance action).1.Succeeds) ∧
      (f.kind.isTransient = false → ∀ locks : LockTable,
        d.outcome { k with locks } = .error f ∧
        ((s.withLocks locks).advance action).1 = (s.advance action).1) := by
  intro s k demand
  have hs : s.Sound := sound_run_initial before
  have hanswer := hs.orderly.answer_advance demand
  refine ⟨hanswer, ?_⟩
  intro f hfails
  have hmet := d.met_outcome hs.kernel
  rw [hfails] at hmet
  obtain ⟨-, hrefuses⟩ := hmet.refused f.code rfl
  refine ⟨?_, ?_, ?_⟩
  · intro hreleases
    apply Bool.eq_false_iff.mpr
    intro htransient
    obtain ⟨_, _, _, -, hacquires, -⟩ := hrefuses.blocks_of_isTransient htransient
    rw [hreleases] at hacquires
    cases hacquires
  · intro htransient
    obtain ⟨desc, wait, mode, hfound, hacquires, hacceptable, hallows, hblocks⟩ :=
      hrefuses.blocks_of_isTransient htransient
    refine ⟨wait, mode, desc, hacquires, hfound, hacceptable, hallows,
      Kernel.exists_obstructs_of_blocks hblocks, ?_⟩
    intro locks hkept
    exact hs.succeeds_withLocks demand hacquires hfound hacceptable hallows hkept
  · intro hpermanent locks
    have hsame : d.outcome { k with locks } = .error f :=
      Kernel.outcome_of_permanent hfails hpermanent locks
    refine ⟨hsame, ?_⟩
    rw [hs.orderly.answer_withLocks demand locks, hsame, hanswer, hfails]

/-- A reader shares the first bytes of the file, and the process itself has some others. -/
def readerFirst : List Action :=
  [.openFile "a" .readWrite, .openFile "r" .readOnly,
    .step (.guard "x" (.fcntl .openFileDescription) (.file "r") .nonblocking ⟨0, 10⟩ .shared),
    .step (.tryLock "y" (.file "a") ⟨20, 5⟩ .shared)]

/-- To write what is read waits in vain until the reader has let go of it, and then succeeds
    though the process still has its own lock.  To write through the reader's descriptor
    never succeeds. -/
theorem writer_waits_for_reader :
    let s := (initial.run readerFirst).2
    let write : Action := .step (.lock "z" (.file "a") (.toEnd 5) .exclusive)
    let own : Lock := ⟨.process, .shared, ⟨20, 24, by decide, by decide⟩⟩
    let misled : Action := .step (.tryLock "z" (.file "r") (.toEnd 5) .exclusive)
    s.demand? write
        = some ⟨.process, .process, .descriptor 3, .toEnd 5, .acquire .blocking .exclusive⟩ ∧
      (s.advance write).1 = .step (.report (.outcome (.error ⟨Errno.EINTR⟩))) ∧
      own ∈ s.process.kernel.locks ∧ ((s.withLocks [own]).advance write).1.Succeeds ∧
      (s.advance misled).1 = .step (.report (.outcome (.error ⟨Errno.EBADF⟩))) ∧
      ∀ locks, ((s.withLocks locks).advance misled).1 = (s.advance misled).1 := by
  intro s write own misled
  have hwrite : s.demand? write
      = some ⟨.process, .process, .descriptor 3, .toEnd 5, .acquire .blocking .exclusive⟩ := by
    decide +kernel
  have hmisled : s.demand? misled
      = some ⟨.process, .process, .descriptor 4, .toEnd 5, .acquire .nonblocking .exclusive⟩ := by
    decide +kernel
  have hown : own ∈ s.process.kernel.locks := by decide +kernel
  obtain ⟨hshown, hfails⟩ := transient_failures_pass readerFirst write _ hwrite
  obtain ⟨hshown', hfails'⟩ := transient_failures_pass readerFirst misled _ hmisled
  obtain ⟨-, htransient, -⟩ := hfails ⟨Errno.EINTR⟩ rfl
  obtain ⟨-, -, hpermanent⟩ := hfails' ⟨Errno.EBADF⟩ rfl
  obtain ⟨wait, mode, desc, -, -, -, -, -, hpasses⟩ := htransient (by decide)
  refine ⟨hwrite, hshown, hown, hpasses [own] ?_, hshown', fun locks => ?_⟩
  · intro l hl
    obtain rfl := List.mem_singleton.mp hl
    exact ⟨hown, fun hobstructs => hobstructs.1 rfl⟩
  · exact (hpermanent (by decide) locks).2

end Session

end FileLocks
