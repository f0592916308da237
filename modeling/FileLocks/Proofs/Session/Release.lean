/-
  FileLocks/Proofs/Session/Release.lean
  =====================================
  **A guard can always be released.**

  To release is refused only if the file is closed or the range is none that the system
  accepts.  The range of a kept guard was accepted when the guard was made, and a range
  is judged alike whenever it comes.  What remains to be asked of a session is that it
  does not close the file of a guard that it keeps (`SparesGuards`).  Under this every
  kept guard stays ready (`Ready`), and its file names one owner for as long as it is
  kept.
-/
import FileLocks.Proofs.Session.Accounts
import FileLocks.Proofs.Session.Demands

namespace FileLocks.Session

/-! ### Files that stay open -/

/-- The action closes the file of a handle. -/
def Closes (s : Session) (h : Handle .posix) : Action → Prop
  | .close name => ∃ number ∈ s.files.find? name, h = .descriptor number
  | _ => False

/-- The action does not close the file of a kept guard. -/
def Spares (s : Session) (action : Action) : Prop :=
  ∀ g ∈ s.slots.values, ¬ s.Closes g.handle action

/-- No action, at the state in which it is taken, closes the file of a kept guard. -/
def SparesGuards (s : Session) (actions : List Action) : Prop :=
  Along advance Spares s actions

instance (s : Session) (h : Handle .posix) : (action : Action) → Decidable (s.Closes h action)
  | .close _ => by
    unfold Closes
    infer_instance
  | .step _ | .openFile _ _ | .dup _ _ | .child _ => isFalse id

instance (s : Session) (action : Action) : Decidable (s.Spares action) := by
  unfold Spares
  infer_instance

instance (s : Session) (actions : List Action) : Decidable (s.SparesGuards actions) :=
  inferInstanceAs (Decidable (Along advance Spares s actions))

/-- Every kept guard has its file open, and a range that the system accepts. -/
structure Ready (s : Session) : Prop where
  sound : s.Sound
  known : ∀ slot g, s.slots.find? slot = some g →
    g.range.Acceptable ∧ ∃ d, s.process.kernel.descriptorOf? g.handle = some d

theorem ready_initial : initial.Ready where
  sound := sound_initial
  known := nofun

variable {s next : Session} {action : Action} {answer : Answer}

/-- A file stays open under its handle until that is closed. -/
theorem Change.descriptorOf?_eq (change : Change s action answer next) {h : Handle .posix}
    {d : Descriptor} (found : s.process.kernel.descriptorOf? h = some d)
    (stays : ¬ s.Closes h action) : next.process.kernel.descriptorOf? h = some d := by
  cases change with
  | invoked _ _ _ served => exact (served.descriptorOf?_eq h).trans found
  | granted _ _ _ _ _ _ _ _ served => exact (served.descriptorOf?_eq h).trans found
  | displaced _ _ _ _ _ _ _ _ _ _ _ served released =>
    exact (released.descriptorOf?_eq h).trans ((served.descriptorOf?_eq h).trans found)
  | refused _ _ _ _ _ _ _ served => exact (served.descriptorOf?_eq h).trans found
  | looked => exact found
  | freed _ _ _ _ _ _ _ _ released => exact (released.descriptorOf?_eq h).trans found
  | vacant => exact found
  | opened _ _ _ _ _ adds =>
    obtain ⟨number⟩ := h
    exact adds.keeps number d found
  | closed name number kernel file closes =>
    obtain ⟨n⟩ := h
    have hother : n ≠ number := fun heq => stays ⟨number, file, congrArg _ heq⟩
    exact (Kernel.descriptor?_close closes hother).trans found
  | failed => exact found
  | child _ _ served => exact (served.descriptorOf?_eq h).trans found

/-- Guards are only made of ranges that were accepted, through files that are open. -/
theorem Change.known_of_kept (change : Change s action answer next) {slot : String}
    {g : Guard Empty .posix} (kept : next.slots.find? slot = some g) :
    s.slots.find? slot = some g ∨
      g.range.Acceptable ∧ ∃ d, next.process.kernel.descriptorOf? g.handle = some d := by
  cases change with
  | granted _ name _ made _ _ _ _ served =>
    rw [NameTable.find?_insert] at kept
    split at kept
    · obtain rfl := Option.some.inj kept
      obtain ⟨d, hd, hrange⟩ := (served.conforms.succeeds_iff.mp rfl).acceptable
      exact Or.inr ⟨hrange, d, (served.descriptorOf?_eq _).trans hd⟩
    · exact Or.inl kept
  | displaced _ name _ made _ _ _ _ _ _ _ served released =>
    rw [NameTable.find?_insert] at kept
    split at kept
    · obtain rfl := Option.some.inj kept
      obtain ⟨d, hd, hrange⟩ := (served.conforms.succeeds_iff.mp rfl).acceptable
      exact Or.inr ⟨hrange, d,
        (released.descriptorOf?_eq _).trans ((served.descriptorOf?_eq _).trans hd)⟩
    · exact Or.inl kept
  | freed =>
    rw [NameTable.find?_erase] at kept
    split at kept
    · cases kept
    · exact Or.inl kept
  | invoked | refused | looked | vacant | opened | closed | failed | child => exact Or.inl kept

theorem Ready.advance (h : s.Ready) (spares : s.Spares action) : (s.advance action).2.Ready := by
  have hchange := advance_change h.sound action
  refine ⟨hchange.sound h.sound, ?_⟩
  intro slot g hkept
  rcases hchange.known_of_kept hkept with hbefore | hmade
  · obtain ⟨hrange, d, hd⟩ := h.known slot g hbefore
    have hspares := spares g (NameTable.mem_values_of_find? hbefore)
    exact ⟨hrange, d, hchange.descriptorOf?_eq hd hspares⟩
  · exact hmade

theorem Ready.run {actions : List Action} (h : s.Ready) (spares : s.SparesGuards actions) :
    (s.run actions).2.Ready :=
  Along.keeps (fun _ _ h spares => h.advance spares) h spares

/-! ### Owners of guards -/

theorem Ready.exists_holder (h : s.Ready) {slot : String} {g : Guard Empty .posix}
    (kept : s.slots.find? slot = some g) : ∃ o, s.process.kernel.holder? g = some o := by
  obtain ⟨-, d, hd⟩ := h.known slot g kept
  refine ⟨Kernel.ownerOf .process d g.backend.lockScope, ?_⟩
  rw [Kernel.holder?, hd, Option.map_some]

/-- For as long as a guard is kept it has one owner. -/
theorem Ready.holder?_run {slot : String} {g : Guard Empty .posix} {actions : List Action}
    (h : s.Ready) (spares : s.SparesGuards actions)
    (kept : ∀ m ≤ actions.length, (s.run (actions.take m)).2.slots.find? slot = some g) :
    (s.run actions).2.process.kernel.holder? g = s.process.kernel.holder? g := by
  induction actions generalizing s with
  | nil => rfl
  | cons action rest ih =>
    have hnow : s.slots.find? slot = some g := kept 0 (Nat.zero_le _)
    obtain ⟨-, d, hd⟩ := h.known slot g hnow
    have hspared : ¬ s.Closes g.handle action := spares.1 g (NameTable.mem_values_of_find? hnow)
    have hstays := (advance_change h.sound action).descriptorOf?_eq hd hspared
    have hrest : (s.run (action :: rest)).2.process.kernel.holder? g
        = (s.advance action).2.process.kernel.holder? g := by
      apply ih (h.advance spares.1) spares.2
      intro m hm
      exact kept (m + 1) (Nat.succ_le_succ hm)
    rw [hrest, Kernel.holder?, Kernel.holder?, hstays, hd]

/-! ### Releasing -/

/-- To let go of a guard leaves what it leaves to unlock it. -/
theorem advance_drop (hs : s.Sound) {slot : String} {g : Guard Empty .posix}
    (kept : s.slots.find? slot = some g) :
    (s.advance (.step (.drop slot))).2 = (s.advance (.step (.unlock slot))).2 := by
  have hdrop := advance_of_enters hs.held (enters?_of_frees (.drop slot) rfl kept)
  have hunlock := advance_of_enters hs.held (enters?_of_frees (.unlock slot) rfl kept)
  rw [hdrop, hunlock]
  dsimp only
  generalize ((Route.checked g.backend).perform g.releaseRequest).run s.process = asked
  obtain ⟨o, between⟩ := asked
  cases o <;> rfl

/-- A guard that is ready is unlocked, and its bytes are free of its owner then. -/
theorem Ready.advance_unlock (h : s.Ready) {slot : String} {g : Guard Empty .posix} {o : Owner}
    (kept : s.slots.find? slot = some g) (holds : s.process.kernel.holder? g = some o) :
    (s.advance (.step (.unlock slot))).1 = .step (.report (.outcome (.ok ()))) ∧
      (s.advance (.step (.unlock slot))).2.process.kernel.view
        = s.process.kernel.view.write o g.range none := by
  obtain ⟨hrange, d, hd⟩ := h.known slot g kept
  have hserved := Process.served_perform h.sound.kernel g.backend g.releaseRequest
  have hentry := enters?_of_frees (.unlock slot) rfl kept
  have hadvance := advance_of_enters h.sound.held hentry
  have howner : Kernel.ownerOf .process d g.backend.lockScope = o := by
    rw [Kernel.holder?, hd, Option.map_some] at holds
    exact Option.some.inj holds
  have hview := view_of_release hserved h.sound.self hrange hd
  have hok := hserved.conforms.succeeds_iff.mpr ⟨d, hd, hrange⟩
  dsimp only [Route.perform] at hadvance
  rw [hok] at hadvance
  rw [hadvance, ← howner]
  exact ⟨rfl, hview⟩

/-- **A guard can always be released.**  If no file of a kept guard was closed, then
    whatever else was done, to unlock a kept guard succeeds.  Its owner, who was the
    same since it was made, holds no byte of its range then, and nothing else is
    changed.  To let go of the guard instead leaves the same. -/
theorem kept_guard_releases (actions : List Action) (spares : initial.SparesGuards actions)
    (slot : String) (g : Guard Empty .posix)
    (kept : (initial.run actions).2.slots.find? slot = some g) :
    let s := (initial.run actions).2
    ∃ o, s.process.kernel.holder? g = some o ∧
      (∀ n ≤ actions.length,
        (∀ m, n ≤ m → m ≤ actions.length →
          (initial.run (actions.take m)).2.slots.find? slot = some g) →
        (initial.run (actions.take n)).2.process.kernel.holder? g = some o) ∧
      (s.advance (.step (.unlock slot))).1 = .step (.report (.outcome (.ok ()))) ∧
      (∀ o' b, (s.advance (.step (.unlock slot))).2.process.kernel.view o' b
        = if o' = o ∧ g.range.Covers b then none else s.process.kernel.view o' b) ∧
      (s.advance (.step (.drop slot))).2 = (s.advance (.step (.unlock slot))).2 := by
  intro s
  have hready : s.Ready := ready_initial.run spares
  obtain ⟨o, holds⟩ := hready.exists_holder kept
  obtain ⟨hanswer, hview⟩ := hready.advance_unlock kept holds
  refine ⟨o, holds, ?_, hanswer, fun o' b => by rw [hview]; rfl,
    advance_drop hready.sound kept⟩
  intro n hn since
  have hsplit : actions.take n ++ actions.drop n = actions := List.take_append_drop n actions
  obtain ⟨hbefore, hafter⟩ := Along.append_iff.mp (hsplit.symm ▸ spares)
  have hrun : s = ((initial.run (actions.take n)).2.run (actions.drop n)).2 := by
    rw [← runAll_append, hsplit]
  rw [← holds, hrun]
  symm
  apply (ready_initial.run hbefore).holder?_run hafter
  intro m hm
  rw [List.length_drop] at hm
  rw [← runAll_append, ← List.take_add]
  exact since (n + m) (Nat.le_add_right n m) (by omega)

/-- A guard is made of bytes before an offset.  Then other owners lock and are refused,
    its bytes are unlocked and are in part guarded anew, a child does so too, and all
    other descriptors are closed. -/
def disturbed : List Action :=
  [.openFile "a" .readWrite, .openFile "b" .readOnly, .dup "a" "c",
    .step (.guard "x" (.fcntl .openFileDescription) (.file "a") .nonblocking ⟨20, -20⟩ .exclusive),
    .step (.tryLock "y" (.file "b") ⟨5, 1⟩ .shared),
    .step (.invoke (.request (.checked (.fcntl .openFileDescription)) (.file "c") ⟨0, 20⟩ .release)),
    .step (.guard "z" (.fcntl .openFileDescription) (.file "c") .blocking ⟨10, 0⟩ .shared),
    .child (.request (.bare (.fcntl .openFileDescription)) (.file "a") ⟨0, 3⟩
      (.acquire .blocking .shared)),
    .step (.drop "z"), .close "b", .close "c"]

/-- What the guard is that this leaves in its slot. -/
def disturbedGuard : Guard Empty .posix :=
  ⟨.fcntl .openFileDescription, .descriptor 3, ⟨20, -20⟩, .exclusive, true⟩

/-- It is unlocked as if nothing had happened. -/
theorem disturbed_releases :
    initial.SparesGuards disturbed ∧
      (initial.run disturbed).2.slots.find? "x" = some disturbedGuard ∧
      ((initial.run disturbed).2.advance (.step (.unlock "x"))).1
        = .step (.report (.outcome (.ok ()))) ∧
      (initial.run disturbed).2.process.kernel.view (.description 0) 2 = some .shared ∧
      ((initial.run disturbed).2.advance (.step (.unlock "x"))).2.process.kernel.view
        (.description 0) 2 = none := by
  have spares : initial.SparesGuards disturbed := by decide +kernel
  have kept : (initial.run disturbed).2.slots.find? "x" = some disturbedGuard := by
    decide +kernel
  have owned : (initial.run disturbed).2.process.kernel.holder? disturbedGuard
      = some (.description 0) := by
    decide +kernel
  have held : (initial.run disturbed).2.process.kernel.view (.description 0) 2 = some .shared := by
    decide +kernel
  obtain ⟨o, holds, -, hanswer, hview, -⟩ :=
    kept_guard_releases disturbed spares "x" disturbedGuard kept
  obtain rfl : .description 0 = o := Option.some.inj (owned.symm.trans holds)
  refine ⟨spares, kept, hanswer, held, ?_⟩
  rw [hview, if_pos ⟨rfl, by decide⟩]

end FileLocks.Session
