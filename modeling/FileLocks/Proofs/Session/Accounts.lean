/-
  FileLocks/Proofs/Session/Accounts.lean
  ======================================
  **Guards account for the locks.**

  In a session that locks only through guards, and whose guards of one owner cover
  different bytes, an owner holds a byte in a mode exactly when a kept guard of that
  owner and mode covers it.

  `Accounts` is the correspondence between a table of bytes and the kept guards,
  apart from how either is stored: `Accounts.grant` and `Accounts.release` are its
  two moves.  `Accounted` is the invariant of a session that is built on it.
-/
import FileLocks.Proofs.Session.Locks

namespace FileLocks

/-- The owner of the locks that a guard keeps, as long as its file is open. -/
def Kernel.holder? (k : Kernel) (g : Guard Empty .posix) : Option Owner :=
  (k.descriptorOf? g.handle).map fun d => ownerOf .process d g.backend.lockScope

namespace Session

/-! ### Bytes and guards -/

/-- The bytes are held as the guards in the slots say, and no byte is covered by two
    guards of one owner. -/
structure Accounts (bytes : ByteTable) (kept : String → Option (Guard Empty .posix))
    (holder? : Guard Empty .posix → Option Owner) : Prop where
  exact_iff : ∀ o b m, bytes o b = some m ↔
    ∃ slot g, kept slot = some g ∧ holder? g = some o ∧ g.mode = m ∧ g.range.Covers b
  apart : ∀ slot slot' g g', kept slot = some g → kept slot' = some g' → slot ≠ slot' →
    ∀ o, holder? g = some o → holder? g' = some o → ∀ b, g.range.Covers b → ¬ g'.range.Covers b

section Accounts

variable {bytes : ByteTable} {kept : String → Option (Guard Empty .posix)}
variable {holder? : Guard Empty .posix → Option Owner}

/-- A guard is let go of: its bytes are free again. -/
theorem Accounts.release (h : Accounts bytes kept holder?) {slot : String}
    {g : Guard Empty .posix} {o : Owner} (found : kept slot = some g)
    (holds : holder? g = some o) :
    Accounts (bytes.write o g.range none) (fun n => if n = slot then none else kept n)
      holder? := by
  constructor
  · intro o' b m
    unfold ByteTable.write
    constructor
    · intro hheld
      split at hheld
      · cases hheld
      · next hout =>
        rcases (h.exact_iff o' b m).mp hheld with ⟨slot', g', hfound', hholds', hmode, hcovers⟩
        refine ⟨slot', g', ?_, hholds', hmode, hcovers⟩
        rw [if_neg]
        · exact hfound'
        · rintro rfl
          obtain rfl := Option.some.inj (found.symm.trans hfound')
          exact hout ⟨Option.some.inj (hholds'.symm.trans holds), hcovers⟩
    · rintro ⟨slot', g', hfound', hholds', hmode, hcovers⟩
      split at hfound'
      · cases hfound'
      · next hne =>
        rw [if_neg]
        · exact (h.exact_iff o' b m).mpr ⟨slot', g', hfound', hholds', hmode, hcovers⟩
        · rintro ⟨rfl, hcovered⟩
          exact h.apart slot' slot g' g hfound' found hne o' hholds' holds b hcovers hcovered
  · intro slot₁ slot₂ g₁ g₂ hfound₁ hfound₂
    split at hfound₁
    · cases hfound₁
    · split at hfound₂
      · cases hfound₂
      · exact h.apart slot₁ slot₂ g₁ g₂ hfound₁ hfound₂

/-- A guard is put into an empty slot: it holds its bytes from now on. -/
theorem Accounts.grant (h : Accounts bytes kept holder?) {slot : String}
    {g : Guard Empty .posix} {o : Owner} (vacant : kept slot = none)
    (holds : holder? g = some o)
    (disjoint : ∀ slot' g', kept slot' = some g' → holder? g' = some o →
      ∀ b, g.range.Covers b → ¬ g'.range.Covers b) :
    Accounts (bytes.write o g.range (some g.mode))
      (fun n => if n = slot then some g else kept n) holder? := by
  constructor
  · intro o' b m
    unfold ByteTable.write
    constructor
    · intro hheld
      split at hheld
      · next hin =>
        obtain ⟨rfl, hcovers⟩ := hin
        exact ⟨slot, g, if_pos rfl, holds, Option.some.inj hheld, hcovers⟩
      · rcases (h.exact_iff o' b m).mp hheld with ⟨slot', g', hfound', hholds', hmode, hcovers⟩
        refine ⟨slot', g', ?_, hholds', hmode, hcovers⟩
        rw [if_neg]
        · exact hfound'
        · rintro rfl
          rw [vacant] at hfound'
          cases hfound'
    · rintro ⟨slot', g', hfound', hholds', hmode, hcovers⟩
      split at hfound'
      · obtain rfl := Option.some.inj hfound'
        obtain rfl := Option.some.inj (hholds'.symm.trans holds)
        rw [if_pos ⟨rfl, hcovers⟩, hmode]
      · rw [if_neg]
        · exact (h.exact_iff o' b m).mpr ⟨slot', g', hfound', hholds', hmode, hcovers⟩
        · rintro ⟨rfl, hcovered⟩
          exact disjoint slot' g' hfound' hholds' b hcovered hcovers
  · intro slot₁ slot₂ g₁ g₂ hfound₁ hfound₂ hne o' hholds₁ hholds₂ b hcovers₁ hcovers₂
    split at hfound₁
    · next heq₁ =>
      obtain rfl := Option.some.inj hfound₁
      obtain rfl := Option.some.inj (hholds₁.symm.trans holds)
      split at hfound₂
      · next heq₂ => exact hne (heq₁.trans heq₂.symm)
      · exact disjoint slot₂ g₂ hfound₂ hholds₂ b hcovers₁ hcovers₂
    · split at hfound₂
      · obtain rfl := Option.some.inj hfound₂
        obtain rfl := Option.some.inj (hholds₂.symm.trans holds)
        exact disjoint slot₁ g₁ hfound₁ hholds₁ b hcovers₂ hcovers₁
      · exact h.apart slot₁ slot₂ g₁ g₂ hfound₁ hfound₂ hne o' hholds₁ hholds₂ b hcovers₁ hcovers₂

end Accounts

/-! ### The invariant -/

/-- Every kept guard has its file open and a range that can be released, and the
    guards account for the locks. -/
structure Accounted (s : Session) : Prop where
  sound : s.Sound
  known : ∀ slot g, s.slots.find? slot = some g →
    g.range.Acceptable ∧ ∃ d, s.process.kernel.descriptorOf? g.handle = some d
  accounts : Accounts s.process.kernel.view s.slots.find? s.process.kernel.holder?

theorem accounted_initial : initial.Accounted where
  sound := sound_initial
  known := nofun
  accounts := by
    refine ⟨fun o b m => ⟨nofun, ?_⟩, nofun⟩
    rintro ⟨slot, g, hfound, -⟩
    cases hfound

theorem Accounted.exists_holder {s : Session} (h : s.Accounted) {slot : String}
    {g : Guard Empty .posix} (found : s.slots.find? slot = some g) :
    ∃ d, s.process.kernel.descriptorOf? g.handle = some d ∧ g.range.Acceptable ∧
      s.process.kernel.holder? g = some (Kernel.ownerOf .process d g.backend.lockScope) := by
  rcases h.known slot g found with ⟨hrange, d, hd⟩
  refine ⟨d, hd, hrange, ?_⟩
  rw [Kernel.holder?, hd, Option.map_some]

/-- Whatever is held is held by a guard whose file is open. -/
theorem Accounted.exists_guard {s : Session} (h : s.Accounted) {o : Owner} {b : Nat} {m : Mode}
    (held : s.process.kernel.view o b = some m) :
    ∃ slot g d, s.slots.find? slot = some g ∧ s.process.kernel.descriptorOf? g.handle = some d ∧
      o = Kernel.ownerOf .process d g.backend.lockScope := by
  rcases (h.accounts.exact_iff o b m).mp held with ⟨slot, g, hfound, hholds, -⟩
  rcases h.exists_holder hfound with ⟨d, hd, -, hholds'⟩
  exact ⟨slot, g, d, hfound, hd, Option.some.inj (hholds.symm.trans hholds')⟩

/-- Nothing happens to locks and guards, and the files of the guards stay open. -/
theorem Accounted.of_view_eq {s next : Session} (h : s.Accounted) (sound : next.Sound)
    (slots : next.slots = s.slots) (view : next.process.kernel.view = s.process.kernel.view)
    (stays : ∀ slot g, s.slots.find? slot = some g →
      next.process.kernel.descriptorOf? g.handle = s.process.kernel.descriptorOf? g.handle) :
    next.Accounted := by
  have hholder : ∀ slot g, s.slots.find? slot = some g →
      next.process.kernel.holder? g = s.process.kernel.holder? g := by
    intro slot g hfound
    rw [Kernel.holder?, Kernel.holder?, stays slot g hfound]
  refine ⟨sound, ?_, ?_, ?_⟩
  · intro slot g hfound
    rw [slots] at hfound
    rw [stays slot g hfound]
    exact h.known slot g hfound
  · intro o b m
    rw [view, slots, h.accounts.exact_iff o b m]
    apply exists_congr
    intro slot
    apply exists_congr
    intro g
    apply and_congr_right
    intro hfound
    rw [hholder slot g hfound]
  · intro slot slot' g g' hfound hfound' hne o hholds hholds'
    rw [slots] at hfound hfound'
    rw [hholder slot g hfound] at hholds
    rw [hholder slot' g' hfound'] at hholds'
    exact h.accounts.apart slot slot' g g' hfound hfound' hne o hholds hholds'

/-! ### Sessions that lock through guards only -/

/-- The guard covers no byte that a kept guard of the same owner covers. -/
def KeptApart (s : Session) (g : Guard Empty .posix) : Prop :=
  ∀ slot g', s.slots.find? slot = some g' →
    s.process.kernel.holder? g' = s.process.kernel.holder? g →
    ∀ b, g.range.Covers b → ¬ g'.range.Covers b

/-- What such a session may do, and see of it.  It makes no requests without guards,
    except in children and for the process scope.  A guard that it makes covers no
    byte of a guard of the same owner.  It closes nothing while a guard of the
    process scope is kept, and never the file of a guard. -/
def Permits (s : Session) : Action → Answer → Prop
  | .step (.invoke _), _ => False
  | .step _, .step (.granted g) => s.KeptApart g
  | .step _, _ => True
  | .openFile _ _, _ => True
  | .dup _ _, _ => True
  | .close name, _ => ∀ slot g, s.slots.find? slot = some g →
      g.backend.lockScope ≠ .process ∧
        ∀ number, s.files.find? name = some number → g.handle ≠ .descriptor number
  | .child invocation, _ => invocation.lockScope = .process

/-- Every action is permitted at the state in which it is taken. -/
def Disciplined (s : Session) (actions : List Action) : Prop :=
  Along advance (fun s action => s.Permits action (s.advance action).1) s actions

theorem keptApart_of_permits {s : Session} {step : Step Empty .posix Target} {slot : String}
    {g : Guard Empty .posix} (h : s.Permits (.step step) (.step (.granted g)))
    (claims : step.claims? = some slot) : s.KeptApart g := by
  cases step with
  | lock | tryLock | guard => exact h
  | invoke | info | unlock | drop => cases claims

/-! ### Actions of such sessions -/

theorem holder?_of_served {p p' : Process} {scope : Posix.Scope} {r : Request .posix}
    {o : Outcome .posix} (h : p.Served scope r o p') :
    p'.kernel.holder? = p.kernel.holder? := by
  funext g
  rw [Kernel.holder?, Kernel.holder?, h.descriptorOf?_eq]

/-- To release what a guard covers succeeds as long as the guard's file is open. -/
theorem view_of_release {p p' : Process} {g : Guard Empty .posix} {o : Outcome .posix}
    {d : Descriptor} (h : p.Served g.backend.lockScope g.releaseRequest o p')
    (self : p.self = .process) (acceptable : g.range.Acceptable)
    (found : p.kernel.descriptorOf? g.handle = some d) :
    p'.kernel.view
      = p.kernel.view.write (Kernel.ownerOf .process d g.backend.lockScope) g.range none := by
  obtain rfl : o = .ok () := h.conforms.succeeds_iff.mpr ⟨d, found, acceptable⟩
  have hview := h.view_eq found
  rw [self] at hview
  exact hview

/-- Writing for two owners, or to different bytes of one, may be done in any order. -/
theorem write_comm {bytes : ByteTable} {o o' : Owner} {r r' : ByteRange}
    (content content' : Option Mode) (apart : o = o' → ∀ b, r.Covers b → ¬ r'.Covers b) :
    (bytes.write o r content).write o' r' content'
      = (bytes.write o' r' content').write o r content := by
  funext o₁ b
  unfold ByteTable.write
  by_cases h : o₁ = o ∧ r.Covers b
  · have h' : ¬ (o₁ = o' ∧ r'.Covers b) := fun h' => apart (h.1.symm.trans h'.1) b h.2 h'.2
    rw [if_neg h', if_pos h, if_pos h]
  · rw [if_neg h, if_neg h]

section Action

variable {s next : Session}

theorem Accounted.of_freed (h : s.Accounted) (sound : next.Sound) {slot : String}
    {g : Guard Empty .posix} {o : Outcome .posix} (found : s.slots.find? slot = some g)
    (released : s.process.Served g.backend.lockScope g.releaseRequest o next.process)
    (slots : next.slots = s.slots.erase slot) : next.Accounted := by
  rcases h.exists_holder found with ⟨d, hd, hrange, hholds⟩
  have hkept : next.slots.find? = fun n => if n = slot then none else s.slots.find? n := by
    funext n
    rw [slots, NameTable.find?_erase]
  refine ⟨sound, ?_, ?_⟩
  · intro slot' g' hfound'
    rw [slots, NameTable.find?_erase] at hfound'
    rw [released.descriptorOf?_eq]
    split at hfound'
    · cases hfound'
    · exact h.known slot' g' hfound'
  · rw [hkept, holder?_of_served released, view_of_release released h.sound.self hrange hd]
    exact h.accounts.release found hholds

/-- A guard is put into its slot when the slot is accounted empty. -/
theorem Accounted.of_granted {p : Process} (h : s.Accounted) (sound : next.Sound)
    {slot : String} {g : Guard Empty .posix} {wait : Wait} {bytes : ByteTable}
    (served : s.process.Served g.backend.lockScope ⟨g.handle, g.range, .acquire wait g.mode⟩
      (.ok ()) p)
    (without : Accounts bytes (fun n => if n = slot then none else s.slots.find? n)
      s.process.kernel.holder?)
    (view : ∀ d, s.process.kernel.descriptorOf? g.handle = some d → next.process.kernel.view
      = bytes.write (Kernel.ownerOf .process d g.backend.lockScope) g.range (some g.mode))
    (descriptors : ∀ handle, next.process.kernel.descriptorOf? handle
      = s.process.kernel.descriptorOf? handle)
    (slots : next.slots = s.slots.insert slot g)
    (apart : s.KeptApart g) : next.Accounted := by
  rcases (served.conforms.succeeds_iff.mp rfl).acceptable with ⟨d, hd, hrange⟩
  have hholds : s.process.kernel.holder? g
      = some (Kernel.ownerOf .process d g.backend.lockScope) := by
    rw [Kernel.holder?, hd, Option.map_some]
  have hholder : next.process.kernel.holder? = s.process.kernel.holder? := by
    funext g'
    rw [Kernel.holder?, Kernel.holder?, descriptors]
  have hkept : next.slots.find? = fun n => if n = slot then some g else
      if n = slot then none else s.slots.find? n := by
    funext n
    rw [slots, NameTable.find?_insert]
    split <;> rfl
  refine ⟨sound, ?_, ?_⟩
  · intro slot' g' hfound'
    rw [slots, NameTable.find?_insert] at hfound'
    rw [descriptors]
    split at hfound'
    · obtain rfl := Option.some.inj hfound'
      exact ⟨hrange, d, hd⟩
    · exact h.known slot' g' hfound'
  · rw [hkept, hholder, view d hd]
    apply without.grant (if_pos rfl) hholds
    intro slot' g' hfound' hholds'
    split at hfound'
    · cases hfound'
    · exact apart slot' g' hfound' (hholds'.trans hholds.symm)

theorem Accounted.of_granted_vacant (h : s.Accounted) (sound : next.Sound) {slot : String}
    {g : Guard Empty .posix} {wait : Wait} (vacant : s.slots.find? slot = none)
    (served : s.process.Served g.backend.lockScope ⟨g.handle, g.range, .acquire wait g.mode⟩
      (.ok ()) next.process)
    (slots : next.slots = s.slots.insert slot g)
    (apart : s.KeptApart g) : next.Accounted := by
  have hkept : (fun n => if n = slot then none else s.slots.find? n) = s.slots.find? := by
    funext n
    split
    · next heq => rw [heq, vacant]
    · rfl
  refine h.of_granted sound served (hkept.symm ▸ h.accounts) ?_ served.descriptorOf?_eq slots
    apart
  intro d hd
  have hview := served.view_eq hd
  rw [h.sound.self] at hview
  exact hview

/-- The guard that was in the slot is let go of after the new one was made.  This
    comes to the same as the other way round, since they have no byte in common. -/
theorem Accounted.of_granted_displaced {between : Process} (h : s.Accounted)
    (sound : next.Sound) {slot : String} {g old : Guard Empty .posix} {wait : Wait}
    {o : Outcome .posix} (found : s.slots.find? slot = some old)
    (served : s.process.Served g.backend.lockScope ⟨g.handle, g.range, .acquire wait g.mode⟩
      (.ok ()) between)
    (released : between.Served old.backend.lockScope old.releaseRequest o next.process)
    (slots : next.slots = s.slots.insert slot g)
    (apart : s.KeptApart g) : next.Accounted := by
  rcases h.exists_holder found with ⟨d₀, hd₀, hrange, hholds₀⟩
  refine h.of_granted sound served (h.accounts.release found hholds₀) ?_ ?_ slots apart
  · intro d hd
    have hview := served.view_eq hd
    rw [h.sound.self] at hview
    rw [view_of_release released (served.self_eq.trans h.sound.self) hrange
      ((served.descriptorOf?_eq _).trans hd₀), hview]
    apply write_comm
    intro howner
    apply apart slot old found
    rw [hholds₀, Kernel.holder?, hd, Option.map_some, howner]
  · intro handle
    rw [released.descriptorOf?_eq, served.descriptorOf?_eq]

theorem Accounted.view_child (h : s.Accounted) (b : Nat) :
    s.process.kernel.view .child b = none := by
  cases hview : s.process.kernel.view .child b with
  | none => rfl
  | some m =>
    rcases h.exists_guard hview with ⟨slot, g, d, -, -, howner⟩
    cases hscope : g.backend.lockScope with
    | process =>
      rw [hscope] at howner
      cases howner
    | openFileDescription =>
      rw [hscope] at howner
      cases howner

/-- A child that asks for its own locks leaves nothing behind. -/
theorem Accounted.view_of_child {p : Process} (h : s.Accounted) {r : Request .posix}
    {o : Outcome .posix}
    (served : ({ s.process with self := .child } : Process).Served .process r o p) :
    (p.kernel.locks.dropOwner .child).modeAt = s.process.kernel.view := by
  funext owner b
  rw [LockTable.modeAt_dropOwner]
  by_cases howner : owner = .child
  · rw [if_pos howner, howner, h.view_child]
  · rw [if_neg howner]
    cases o with
    | error f =>
      rw [(served.conforms.refused f.code rfl).1]
      rfl
    | ok =>
      obtain ⟨d, -, hview⟩ := served.conforms.written rfl
      show p.kernel.view owner b = _
      rw [hview, ByteTable.write, if_neg (fun hboth => howner hboth.1)]

/-- To close a file that is no guard's, with no process locks held, takes nothing
    away. -/
theorem Accounted.view_of_close {name : String} {number : Int32} {kernel : Kernel}
    (h : s.Accounted) (found : s.files.find? name = some number)
    (closes : s.process.kernel.close number = .ok kernel)
    (permits : ∀ slot g, s.slots.find? slot = some g → g.backend.lockScope ≠ .process ∧
      ∀ number, s.files.find? name = some number → g.handle ≠ .descriptor number) :
    kernel.view = s.process.kernel.view := by
  funext owner b
  rcases Kernel.view_close closes owner b with hnone | hsame
  · cases hview : s.process.kernel.view owner b with
    | none => exact hnone
    | some m =>
      rcases h.exists_guard hview with ⟨slot, g, d, hfound, hd, rfl⟩
      obtain ⟨hscope, hother⟩ := permits slot g hfound
      cases hg : g.handle with
      | descriptor n =>
        have hne : n ≠ number := fun heq => hother number found (heq ▸ hg)
        rw [hg] at hd
        cases hs : g.backend.lockScope with
        | process => exact absurd hs hscope
        | openFileDescription =>
          rw [hs] at hview
          rw [← hview]
          exact Kernel.view_close_of_descriptor? closes hne hd b
  · exact hsame

theorem Change.accounted {action : Action} {answer : Answer} (change : Change s action answer next)
    (h : s.Accounted) (permits : s.Permits action answer) : next.Accounted := by
  have sound := change.sound h.sound
  cases change with
  | invoked => exact permits.elim
  | granted step slot wait g process claims vacant held served =>
    exact h.of_granted_vacant sound vacant served rfl (keptApart_of_permits permits claims)
  | displaced step slot wait g old between process o claims found held served released =>
    exact h.of_granted_displaced sound found served released rfl
      (keptApart_of_permits permits claims)
  | refused step slot scope r f process claims served =>
    refine h.of_view_eq sound rfl ?_ fun slot g _ => served.descriptorOf?_eq g.handle
    exact congrArg Kernel.view (served.conforms.refused f.code rfl).1
  | looked => exact h
  | freed step slot g answer o process frees found released =>
    exact h.of_freed sound found released rfl
  | vacant => exact h
  | opened action name number kernel opens adds =>
    apply h.of_view_eq sound rfl
    · show kernel.locks.modeAt = s.process.kernel.locks.modeAt
      rw [adds.locks]
    · intro slot g hfound
      obtain ⟨-, d, hd⟩ := h.known slot g hfound
      rw [hd]
      cases hg : g.handle with
      | descriptor n =>
        rw [hg] at hd
        exact adds.keeps n d hd
  | closed name number kernel found closes =>
    apply h.of_view_eq sound rfl (h.view_of_close found closes permits)
    intro slot g hfound
    obtain ⟨-, hother⟩ := permits slot g hfound
    cases hg : g.handle with
    | descriptor n =>
      exact Kernel.descriptor?_close closes fun heq => hother number found (heq ▸ hg)
  | failed => exact h
  | child invocation o served =>
    rw [show invocation.lockScope = .process from permits] at served
    exact h.of_view_eq sound rfl (h.view_of_child served)
      fun slot g _ => served.descriptorOf?_eq g.handle

theorem Accounted.run {actions : List Action} (h : s.Accounted)
    (disciplined : s.Disciplined actions) : (s.run actions).2.Accounted :=
  Along.keeps (fun _ action h permits => (advance_change h.sound action).accounted h permits) h
    disciplined

/-- To ask for a guard and get none changes neither locks nor guards. -/
theorem advance_of_not_granted (hs : s.Sound) {step : Step Empty .posix Target} {slot : String}
    (claims : step.claims? = some slot)
    (fails : ∀ g, (s.advance (.step step)).1 ≠ .step (.granted g)) :
    (s.advance (.step step)).2.process.kernel = s.process.kernel ∧
      (s.advance (.step step)).2.slots = s.slots := by
  have hchange := advance_change hs (.step step)
  generalize s.advance (.step step) = result at hchange fails ⊢
  obtain ⟨answer, next⟩ := result
  cases hchange with
  | invoked => cases claims
  | granted _ _ _ g => exact absurd rfl (fails g)
  | displaced _ _ _ g => exact absurd rfl (fails g)
  | refused _ _ scope r f process _ served => exact ⟨(served.conforms.refused f.code rfl).1, rfl⟩
  | looked => cases claims
  | freed _ _ g _ o process frees =>
    rw [Step.claims?_eq_none_of_frees frees] at claims
    cases claims
  | vacant => exact ⟨rfl, rfl⟩
  | opened _ _ _ _ opens => cases opens
  | failed => exact ⟨rfl, rfl⟩

end Action

/-- **Guards account for the locks.**  After each permitted action an owner holds a
    byte in a mode exactly when a kept guard of that owner and mode covers it, and
    every kept guard has an owner.  So nothing is locked when no guard is kept, and
    to ask for a guard and get none leaves everything as it was. -/
theorem guards_account_for_locks (actions : List Action)
    (disciplined : initial.Disciplined actions) (n : Nat) :
    let s := (initial.run (actions.take n)).2
    (∀ o b m, s.process.kernel.view o b = some m ↔
      ∃ slot g, s.slots.find? slot = some g ∧ s.process.kernel.holder? g = some o ∧
        g.mode = m ∧ g.range.Covers b) ∧
    (∀ slot g, s.slots.find? slot = some g → ∃ o, s.process.kernel.holder? g = some o) ∧
    ((∀ slot, s.slots.find? slot = none) → s.process.kernel.locks = []) ∧
    ∀ step slot, step.claims? = some slot →
      (∀ g, (s.advance (.step step)).1 ≠ .step (.granted g)) →
      (s.advance (.step step)).2.process.kernel = s.process.kernel ∧
        (s.advance (.step step)).2.slots = s.slots := by
  intro s
  have h : s.Accounted := accounted_initial.run (Along.take disciplined n)
  refine ⟨h.accounts.exact_iff, ?_, ?_, ?_⟩
  · intro slot g hfound
    obtain ⟨d, -, -, hholds⟩ := h.exists_holder hfound
    exact ⟨_, hholds⟩
  · intro hempty
    apply h.sound.kernel.consistent.eq_nil
    intro o b
    cases hview : s.process.kernel.view o b with
    | none => exact hview
    | some m =>
      rcases (h.accounts.exact_iff o b m).mp hview with ⟨slot, g, hfound, -⟩
      rw [hempty slot] at hfound
      cases hfound
  · intro step slot claims fails
    exact advance_of_not_granted h.sound claims fails

/-- Two guards of one file, the second up to the end; a child that is refused; and
    the first guard unlocked. -/
def twoGuards : List Action :=
  [.openFile "a" .readWrite,
    .step (.lock "x" (.file "a") ⟨0, 10⟩ .exclusive),
    .step (.tryLock "y" (.file "a") (.toEnd 10) .shared),
    .child (.request .default (.file "a") ⟨5, 1⟩ (.acquire .nonblocking .shared)),
    .step (.unlock "x")]

theorem disciplined_twoGuards : initial.Disciplined twoGuards := by
  refine ⟨trivial, ?_, ?_, rfl, trivial, trivial⟩
  · intro slot g' hfound
    cases hfound
  · intro slot g' hfound _ b hcovers hcovers'
    change ((NameTable.empty : Slots Empty .posix).insert "x"
      ⟨.fcntl .process, .descriptor 3, ⟨0, 10⟩, .exclusive, true⟩).find? slot = some g' at hfound
    rw [NameTable.find?_insert] at hfound
    split at hfound
    · obtain rfl := Option.some.inj hfound
      have hfrom : (10 : Int64).toInt ≤ b := by
        rcases hcovers with ⟨-, hfrom, -⟩ | ⟨hlength, -⟩ | ⟨hlength, -⟩
        · exact hfrom
        · cases hlength
        · cases hlength
      have hbelow : b < (0 : Int64).toInt + (10 : Int64).toInt := by
        rcases hcovers' with ⟨hlength, -⟩ | ⟨-, -, hbelow⟩ | ⟨hlength, -⟩
        · cases hlength
        · exact hbelow
        · cases hlength
      exact absurd (Int.lt_of_le_of_lt hfrom hbelow) (by decide)
    · cases hfound

/-- What the second guard covers is locked to the end. -/
theorem twoGuards_accounted :
    initial.Disciplined twoGuards ∧
      (initial.run (twoGuards.take 5)).2.process.kernel.view .process 12 = some .shared ∧
      ∃ slot g, (initial.run (twoGuards.take 5)).2.slots.find? slot = some g ∧
        (initial.run (twoGuards.take 5)).2.process.kernel.holder? g = some .process ∧
        g.mode = .shared ∧ g.range.Covers 12 := by
  have accounts := guards_account_for_locks twoGuards disciplined_twoGuards 5
  have held : (initial.run (twoGuards.take 5)).2.process.kernel.view .process 12
      = some .shared := by decide
  exact ⟨disciplined_twoGuards, held, (accounts.1 _ _ _).mp held⟩

end Session

end FileLocks
