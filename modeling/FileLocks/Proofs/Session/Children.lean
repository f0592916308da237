/-
  FileLocks/Proofs/Session/Children.lean
  ======================================
  **What a forked child can do.**

  A child is a new owner of process locks.  It starts with none, what it locks is gone
  when it ends, and what it unlocks it did not have: a request in its own name changes
  nothing, and only tells whether anybody stands in its way.  Of a description's locks
  it is no less an owner than its parent, and its request does what its parent's does.
-/
import Mathlib.Data.List.Basic
import FileLocks.Proofs.Session.Independence
import FileLocks.Proofs.Session.Outcomes

namespace FileLocks

/-! ### Owners without locks -/

namespace LockTable

variable {t : LockTable} {o : Owner}

theorem dropOwner_eq_self (absent : ∀ l ∈ t, l.owner ≠ o) : t.dropOwner o = t := by
  apply List.filter_eq_self.mpr
  intro l hl
  exact bne_iff_ne.mpr (absent l hl)

theorem clear_eq_self (absent : ∀ l ∈ t, l.owner ≠ o) (s : Span) : t.clear o s = t := by
  have hpieces : ∀ l ∈ t, (if l.owner = o then l.without s else [l]) = [l] := by
    intro l hl
    exact if_neg (absent l hl)
  rw [clear, List.flatMap_congr hpieces, List.flatMap_singleton']

/-- What is taken away again at the end does not show. -/
theorem dropOwner_place (absent : ∀ l ∈ t, l.owner ≠ o) (m : Mode) (s : Span) :
    (t.place o m s).dropOwner o = t := by
  rw [place, clear_eq_self absent, dropOwner, List.filter_cons_of_neg]
  · exact dropOwner_eq_self absent
  · simp

end LockTable

/-- A request in the name of an owner without locks leaves nothing that outlives the
    owner. -/
theorem Kernel.dropOwner_after {k : Kernel} {o : Owner} (absent : ∀ l ∈ k.locks, l.owner ≠ o)
    (r : Request .posix) :
    { k.after o .process r with locks := (k.after o .process r).locks.dropOwner o } = k := by
  rcases k.after_cases o .process r with hsame | ⟨d, s, hcleared | ⟨m, hplaced⟩⟩
  · rw [hsame, LockTable.dropOwner_eq_self absent]
  · rw [hcleared]
    simp only [ownerOf, LockTable.clear_eq_self absent, LockTable.dropOwner_eq_self absent]
  · rw [hplaced]
    simp only [ownerOf, LockTable.dropOwner_place absent]

namespace Session

variable {s : Session}

/-- Between actions no lock in the table is a child's. -/
theorem AtRest.owner_ne_child (h : s.AtRest) : ∀ l ∈ s.process.kernel.locks, l.owner ≠ .child := by
  intro l hl howner
  have hshows := h.sound.kernel.consistent.modeAt_first hl
  have hnone : s.process.kernel.locks.modeAt .child l.span.first = none := h.childless _
  rw [howner, hnone] at hshows
  cases hshows

/-- The lock of anybody stands in the way of a child. -/
theorem AtRest.admits_child_iff (h : s.AtRest) {d? : Option Descriptor} {range : ByteRange}
    {operation : Operation} :
    s.process.kernel.view.Admits .child .process d? range operation ↔
      ∃ d, d? = some d ∧ range.Acceptable ∧
        ∀ wait mode, operation = .acquire wait mode →
          d.access.allows mode = true ∧
          ∀ b, range.Covers b → ∀ o m, s.process.kernel.view o b = some m →
            ¬ (mode = .exclusive ∨ m = .exclusive) := by
  cases operation with
  | release =>
    refine exists_congr fun d => and_congr_right fun _ => ?_
    exact (and_iff_left nofun).symm
  | acquire wait mode =>
    refine exists_congr fun d => and_congr_right fun _ => and_congr_right fun _ => ?_
    constructor
    · rintro ⟨hallows, hfree⟩ wait' mode' hoperation
      cases hoperation
      refine ⟨hallows, ?_⟩
      intro b hcovers o m hheld hexclusive
      have hother : o ≠ .child := by
        rintro rfl
        rw [h.childless] at hheld
        cases hheld
      exact hfree ⟨b, hcovers, o, hother, m, hheld, hexclusive⟩
    · intro hall
      obtain ⟨hallows, hfree⟩ := hall wait mode rfl
      refine ⟨hallows, ?_⟩
      rintro ⟨b, hcovers, o, -, m, hheld, hexclusive⟩
      exact hfree b hcovers o m hheld hexclusive

/-! ### Requests in the child's own name -/

theorem AtRest.advance_probe (h : s.AtRest) {invocation : Invocation Empty .posix Target}
    (scope : invocation.lockScope = .process) :
    s.advance (.child invocation)
      = (.child (s.process.kernel.outcome .child .process
          (invocation.mapFile s.resolve).asked).toCode, s) := by
  rw [h.sound.orderly.advance_child invocation rfl]
  simp only [Demand.outcome, Demand.after, scope]
  rw [Kernel.dropOwner_after h.owner_ne_child]

/-! ### Requests for a description -/

/-- The child makes the parent's request, and what it leaves is the description's, so
    nothing of it ends with the child. -/
theorem AtRest.advance_shared (h : s.AtRest) {invocation : Invocation Empty .posix Target}
    (scope : invocation.lockScope = .openFileDescription) :
    let d : Demand :=
      ⟨.process, .openFileDescription, (invocation.mapFile s.resolve).asked⟩
    s.advance (.child invocation)
      = (.child (d.outcome s.process.kernel).toCode,
        { s with process := { s.process with kernel := d.after s.process.kernel } }) ∧
    (s.advance (.step (.invoke invocation))).1
      = .step (.report (invocation.reports (d.outcome s.process.kernel))) ∧
    (s.advance (.step (.invoke invocation))).2.process.kernel = d.after s.process.kernel := by
  intro d
  have hdemand : s.demand? (.step (.invoke invocation)) = some d := by
    have hscope := (invocation.lockScope_mapFile s.resolve).trans scope
    simp only [d, ← hscope]
    rfl
  have hkernel := h.sound.orderly.kernel_step hdemand rfl
  have hnone := (h.advance (.step (.invoke invocation))).owner_ne_child
  rw [hkernel] at hnone
  refine ⟨?_, ?_, hkernel⟩
  · have hsame := s.process.kernel.answer_openFileDescription .child .process d.request
    rw [h.sound.orderly.advance_child invocation rfl]
    simp only [Demand.outcome, Demand.after, Kernel.outcome, Kernel.after, scope] at hnone ⊢
    rw [hsame, LockTable.dropOwner_eq_self hnone]
  · rw [h.sound.orderly.answer_advance hdemand]
    cases invocation <;> rfl

/-- **A child probes or shares.**  At every state that a session reaches, a child that makes
    a request in its own name leaves the session as it was, and reports success if and only
    if its request is well formed and, when it wants to lock, nobody at all holds a byte of
    the range such that one of the two modes is exclusive.  A child that makes a request
    for a description reports and leaves what its parent would with the same request. -/
theorem children_probe_or_share (before : List Action)
    (invocation : Invocation Empty .posix Target) :
    let s := (initial.run before).2
    let k := s.process.kernel
    let r := (invocation.mapFile s.resolve).asked
    let child := s.advance (.child invocation)
    let parent := s.advance (.step (.invoke invocation))
    (invocation.lockScope = .process →
      child.2 = s ∧
      ∃ code, child.1 = .child code ∧
        (code = 0 ↔ ∃ d, k.descriptorOf? r.handle = some d ∧ r.range.Acceptable ∧
          ∀ wait mode, r.operation = .acquire wait mode →
            d.access.allows mode = true ∧
            ∀ b, r.range.Covers b → ∀ o m, k.view o b = some m →
              ¬ (mode = .exclusive ∨ m = .exclusive))) ∧
    (invocation.lockScope = .openFileDescription →
      (∃ report, parent.1 = .step (.report report) ∧ child.1 = .child report.toCode) ∧
      child.2.process.kernel = parent.2.process.kernel ∧ child.2.files = parent.2.files ∧
      child.2.slots = parent.2.slots) := by
  intro s k r child parent
  have h : s.AtRest := atRest_initial.run before
  constructor
  · intro scope
    have hprobe : child = _ := h.advance_probe scope
    rw [hprobe]
    refine ⟨rfl, _, rfl, ?_⟩
    have hmet := Demand.met_outcome h.sound.kernel ⟨.child, .process, r⟩
    exact (Demand.toCode_outcome_eq_zero_iff h.sound.kernel ⟨.child, .process, r⟩).trans
      (hmet.succeeds_iff.trans h.admits_child_iff)
  · intro scope
    obtain ⟨hchild, hreport, hkernel⟩ := h.advance_shared scope
    refine ⟨⟨_, hreport, ?_⟩, ?_, ?_, ?_⟩
    · show (s.advance (.child invocation)).1 = _
      rw [hchild, Invocation.toCode_reports]
    · show (s.advance (.child invocation)).2.process.kernel = _
      rw [hchild]
      exact hkernel.symm
    · rfl
    · rfl

/-- A file of which a description and the process have locked a part each. -/
def twoOwners : List Action :=
  [.openFile "a" .readWrite, .openFile "b" .readWrite,
    .step (.guard "x" (.fcntl .openFileDescription) (.file "a") .nonblocking ⟨0, 10⟩ .exclusive),
    .step (.lock "y" (.file "b") ⟨20, 5⟩ .shared)]

/-- To want the bytes that its parent shares. -/
def wantShared : Invocation Empty .posix Target :=
  .acquireCode (.file "a") false 22 0 false

/-- To unlock the first bytes of the description. -/
def unlockFirst : Invocation Empty .posix Target :=
  .request (.checked (.fcntl .openFileDescription)) (.file "a") ⟨0, 4⟩ .release

/-- A child is refused the bytes of its parent and leaves no trace, but what it unlocks of
    the description is unlocked. -/
theorem child_refused_child_unlocks :
    let s := (initial.run twoOwners).2
    wantShared.lockScope = .process ∧ (s.advance (.child wantShared)).2 = s ∧
      (s.advance (.child wantShared)).1 ≠ .child 0 ∧
    unlockFirst.lockScope = .openFileDescription ∧
      (s.advance (.child unlockFirst)).1 = .child 0 ∧
      (s.advance (.child unlockFirst)).2.process.kernel.view (.description 0) 3 = none ∧
      (s.advance (.child unlockFirst)).2.process.kernel.view (.description 0) 4
        = some .exclusive := by
  intro s
  obtain ⟨hsame, code, hcode, hzero⟩ := (children_probe_or_share twoOwners wantShared).1 rfl
  obtain ⟨⟨report, hparent, hchild⟩, hkernel, -, -⟩ :=
    (children_probe_or_share twoOwners unlockFirst).2 rfl
  refine ⟨rfl, hsame, ?_, rfl, ?_, ?_, ?_⟩
  · rw [hcode]
    intro hsucceeds
    obtain ⟨d, -, -, hfree⟩ := hzero.mp (Answer.child.inj hsucceeds)
    obtain ⟨-, hnobody⟩ := hfree .nonblocking .exclusive rfl
    exact hnobody 22 (by decide +kernel) .process .shared (by decide +kernel) (Or.inl rfl)
  · rw [hchild]
    have hreport : Answer.step (.report report) = .step (.report (.outcome (.ok ()))) :=
      hparent.symm
    cases hreport
    rfl
  · rw [hkernel]
    decide +kernel
  · rw [hkernel]
    decide +kernel

end Session

end FileLocks
