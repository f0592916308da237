/-
  FileLocks/Proofs/Session/Protection.lean
  ========================================
  **A granted lock protects until its owner gives it up.**

  What an owner holds on a byte changes only by a request of that owner that is about
  the byte and succeeds, or by a close that ends the owner's locks
  (`view_advance_of_not_touches`).  All else that goes on, requests of other owners
  and releases of what they do not hold included, leaves it alone, and so it stands
  in the way of whoever wants the byte in a mode that excludes it.

  A guard that is displaced from its slot is let go of like any other.  This may undo the
  very step that displaces it (`relock_lets_go`), which is why `Grants` asks that it does
  not.
-/
import FileLocks.Proofs.Session.Demands

namespace FileLocks.Session

/-- The action asks to lock a byte of an owner. -/
def Asks (s : Session) (action : Action) (o : Owner) (b : Nat) (m : Mode) : Prop :=
  ∃ d, s.demand? action = some d ∧ d.request.operation.leaves = some m ∧
    d.Reaches s.process.kernel o b

/-- The step locks a byte of an owner, and does not let go of it at once by a guard that
    it displaces. -/
structure Grants (s : Session) (step : Step Empty .posix Target) (o : Owner) (b : Nat)
    (m : Mode) : Prop where
  asks : s.Asks (.step step) o b m
  succeeds : (s.advance (.step step)).1.Succeeds
  stays : ∀ d, s.clears? (.step step) = some d → ¬ d.Reaches s.process.kernel o b

/-- The action closes a file and with it ends the locks of an owner. -/
def Ends (s : Session) (o : Owner) : Action → Prop
  | .close name => ∃ d ∈ (s.files.find? name).bind s.process.kernel.descriptor?,
      s.process.kernel.Frees d o
  | _ => False

/-- The action may change what an owner holds on a byte: a request of the owner that is
    about the byte succeeds, or the owner's locks end. -/
def Touches (s : Session) (o : Owner) (b : Nat) (action : Action) : Prop :=
  ((s.advance action).1.Succeeds ∧ ∃ d ∈ s.demands action, d.Reaches s.process.kernel o b) ∨
    s.Ends o action

/-- No action, at the state in which it is taken, touches the byte. -/
def Untouched (s : Session) (o : Owner) (b : Nat) (actions : List Action) : Prop :=
  Along advance (fun s action => ¬ s.Touches o b action) s actions

instance (s : Session) (o : Owner) : (action : Action) → Decidable (s.Ends o action)
  | .close _ => by
    unfold Ends
    infer_instance
  | .step _ | .openFile _ _ | .dup _ _ | .child _ => isFalse id

instance (s : Session) (o : Owner) (b : Nat) (action : Action) :
    Decidable (s.Touches o b action) := by
  unfold Touches
  infer_instance

instance (s : Session) (o : Owner) (b : Nat) (actions : List Action) :
    Decidable (s.Untouched o b actions) := by
  unfold Untouched
  infer_instance

variable {s : Session} {o : Owner} {b : Nat} {m : Mode}

/-! ### Steps -/

/-- The parent never locks for a child. -/
theorem Asks.ne_child {step : Step Empty .posix Target} (h : s.Asks (.step step) o b m) :
    o ≠ .child := by
  obtain ⟨d, hdemand, -, hreaches⟩ := h
  rcases Option.map_eq_some_iff.mp hdemand with ⟨⟨route, r⟩, -, rfl⟩
  rintro rfl
  exact Demand.not_reaches_child rfl b hreaches

/-- What is granted is held. -/
theorem Grants.view_advance (hs : s.Sound) {step : Step Empty .posix Target}
    (h : s.Grants step o b m) :
    (s.advance (.step step)).2.process.kernel.view o b = some m := by
  obtain ⟨d, hdemand, hacquires, hreaches⟩ := h.asks
  obtain ⟨result, k, hserves⟩ := exists_serves hs hdemand
  obtain rfl := hserves.acquired m hacquires h.succeeds
  rw [hserves.rest o b h.asks.ne_child (fun _ => h.stays),
    hserves.met.view_of_reaches hreaches, hacquires]

/-- A lock stands in the way of whoever wants its byte in a mode that excludes it. -/
theorem Asks.not_succeeds (hs : s.Sound) {action : Action} {o' : Owner} {m' : Mode}
    (h : s.Asks action o' b m') (held : s.process.kernel.view o b = some m) (other : o' ≠ o)
    (excludes : m = .exclusive ∨ m' = .exclusive) : ¬ (s.advance action).1.Succeeds := by
  intro succeeds
  obtain ⟨d, hdemand, hacquires, hreaches⟩ := h
  obtain ⟨result, k, hserves⟩ := exists_serves hs hdemand
  obtain rfl := hserves.acquired m' hacquires succeeds
  exact hserves.met.not_exclusive hacquires hreaches other.symm held excludes.symm

theorem view_advance_of_opens (hs : s.Sound) {action : Action} {name : String}
    (opens : action.opens? = some name) :
    (s.advance action).2.process.kernel.view o b = s.process.kernel.view o b := by
  have hchange := advance_change hs action
  generalize s.advance action = result at hchange ⊢
  obtain ⟨answer, next⟩ := result
  cases hchange with
  | opened _ _ number kernel _ adds =>
    show kernel.locks.modeAt o b = s.process.kernel.locks.modeAt o b
    rw [adds.locks]
  | failed => rfl
  | invoked | granted | displaced | refused | looked | freed | vacant | closed | child =>
    cases opens

/-- An action without a demand opens or closes something, or does nothing. -/
theorem view_advance_of_demand?_eq_none (hs : s.Sound) {action : Action}
    (demand : s.demand? action = none) (stays : ¬ s.Ends o action) :
    (s.advance action).2.process.kernel.view o b = s.process.kernel.view o b := by
  cases action with
  | step step =>
    have hentry : (step.mapFile s.resolve).enters? s.slots = none :=
      Option.map_eq_none_iff.mp demand
    obtain ⟨answer, hperform⟩ := Step.exists_perform_eq_pure (σ := Process) hentry
    rw [advance_step, hperform]
    rfl
  | openFile | dup => exact view_advance_of_opens hs rfl
  | close name =>
    have hchange := advance_change hs (.close name)
    generalize s.advance (.close name) = result at hchange ⊢
    obtain ⟨answer, next⟩ := result
    cases hchange with
    | opened _ _ _ _ opens => cases opens
    | closed _ number kernel found closes =>
      obtain ⟨d, hd, -, -⟩ := Kernel.exists_of_close closes
      show kernel.view o b = s.process.kernel.view o b
      rw [Kernel.view_close_eq closes hd, if_neg]
      intro frees
      apply stays
      refine ⟨d, ?_, frees⟩
      rw [found, Option.bind_some, Option.mem_def, hd]
    | failed => rfl
  | child => cases demand

/-- An action that does not touch a byte leaves it to its owner. -/
theorem view_advance_of_not_touches (hs : s.Sound) (parent : o ≠ .child) {action : Action}
    (h : ¬ s.Touches o b action) :
    (s.advance action).2.process.kernel.view o b = s.process.kernel.view o b := by
  obtain ⟨hrequests, hends⟩ := not_or.mp h
  cases hdemand : s.demand? action with
  | none => exact view_advance_of_demand?_eq_none hs hdemand hends
  | some d =>
    obtain ⟨result, k, hserves⟩ := exists_serves hs hdemand
    -- a demand that reaches the byte is in vain, since the action does not touch it
    have haway : result = .ok () → ∀ d' ∈ s.demands action, ¬ d'.Reaches s.process.kernel o b := by
      intro hok d' hd' hreaches
      exact hrequests ⟨hserves.succeeds hok, d', hd', hreaches⟩
    rw [hserves.rest o b parent fun hok d' hd' => haway hok d' (mem_demands.mpr (Or.inr hd'))]
    apply hserves.met.view_of_not_reaches
    intro hok
    exact haway hok d (mem_demands.mpr (Or.inl hdemand))

/-! ### Runs -/

theorem view_run_of_untouched (hs : s.Sound) (parent : o ≠ .child) {actions : List Action}
    (h : s.Untouched o b actions) :
    (s.run actions).2.process.kernel.view o b = s.process.kernel.view o b := by
  have step : ∀ (s' : Session) (action : Action),
      s'.Sound ∧ s'.process.kernel.view o b = s.process.kernel.view o b →
      ¬ s'.Touches o b action → (s'.advance action).2.Sound ∧
        (s'.advance action).2.process.kernel.view o b = s.process.kernel.view o b := by
    rintro s' action ⟨hs', hview⟩ haway
    exact ⟨hs'.advance action, (view_advance_of_not_touches hs' parent haway).trans hview⟩
  exact (Along.keeps step ⟨hs, rfl⟩ h).2

/-- A process locks the first bytes of the file, to be guarded in a slot. -/
def lockFirst : Step Empty .posix Target :=
  .lock "x" (.file "a") ⟨0, 10⟩ .exclusive

/-- The first of two descriptions of the file, which then gets a guard. -/
def twoFiles : List Action :=
  [.openFile "a" .readWrite, .openFile "b" .readWrite]

def guardFirst : Step Empty .posix Target :=
  .guard "x" (.fcntl .openFileDescription) (.file "a") .nonblocking ⟨0, 10⟩ .exclusive

/-- What goes on beside the guard: a request that is refused, releases of what is not held,
    children, and files that are closed. -/
def neighbours : List Action :=
  [.dup "a" "c",
    .step (.tryLock "y" (.file "b") ⟨0, 3⟩ .shared),
    .step (.invoke (.releaseCode (.file "b") 0 0)),
    .child (.request .default (.file "a") .wholeFile .release),
    .child (.request (.bare (.fcntl .openFileDescription)) (.file "b") ⟨20, 5⟩
      (.acquire .blocking .exclusive)),
    .close "b", .close "c"]

end FileLocks.Session
