/-
  FileLocks/Run.lean
  ==================
  **Runs: one action after the other.**

  A state takes an action, gives an answer and goes over into the next state; a run does
  so for a list of actions.  What each action is to meet at the state in which it is taken
  is said by `Along`, and what such actions keep, the run keeps (`Along.keeps`).
-/

namespace FileLocks

variable {σ α ω : Type} {advance : σ → α → ω × σ}

/-- Take some actions, one after the other: the answers, and the state after the last. -/
def runAll (advance : σ → α → ω × σ) (s : σ) : List α → List ω × σ
  | [] => ([], s)
  | a :: rest =>
    let (answer, next) := advance s a
    let (answers, last) := runAll advance next rest
    (answer :: answers, last)

theorem runAll_append (s : σ) (actions rest : List α) :
    (runAll advance s (actions ++ rest)).2
      = (runAll advance (runAll advance s actions).2 rest).2 := by
  induction actions generalizing s with
  | nil => rfl
  | cons a actions ih => exact ih (advance s a).2

theorem length_runAll (s : σ) (actions : List α) :
    (runAll advance s actions).1.length = actions.length := by
  induction actions generalizing s with
  | nil => rfl
  | cons a rest ih => exact congrArg Nat.succ (ih (advance s a).2)

/-- An action is answered from the state that those before it have left. -/
theorem getElem?_runAll (s : σ) (actions : List α) (n : Nat) :
    (runAll advance s actions).1[n]?
      = actions[n]?.map fun a => (advance (runAll advance s (actions.take n)).2 a).1 := by
  induction actions generalizing s n with
  | nil => rfl
  | cons a rest ih =>
    cases n with
    | zero => rfl
    | succ n => exact ih (advance s a).2 n

theorem runAll_take_succ {s : σ} {actions : List α} {n : Nat} {a : α} (ha : actions[n]? = some a) :
    (runAll advance s (actions.take (n + 1))).2
      = (advance (runAll advance s (actions.take n)).2 a).2 := by
  rw [List.take_add_one, ha, runAll_append]
  rfl

/-- Each action meets a condition at the state in which it is taken. -/
def Along (advance : σ → α → ω × σ) (P : σ → α → Prop) : σ → List α → Prop
  | _, [] => True
  | s, a :: rest => P s a ∧ Along advance P (advance s a).2 rest

namespace Along

variable {P : σ → α → Prop} {s : σ} {actions : List α}

instance decidableAlong [∀ s a, Decidable (P s a)] :
    (s : σ) → (actions : List α) → Decidable (Along advance P s actions)
  | _, [] => isTrue trivial
  | s, a :: rest =>
    have : Decidable (Along advance P (advance s a).2 rest) :=
      decidableAlong (advance s a).2 rest
    inferInstanceAs (Decidable (P s a ∧ Along advance P (advance s a).2 rest))

theorem append_iff {rest : List α} :
    Along advance P s (actions ++ rest) ↔
      Along advance P s actions ∧ Along advance P (runAll advance s actions).2 rest := by
  induction actions generalizing s with
  | nil => exact (and_iff_right trivial).symm
  | cons a actions ih => exact (and_congr_right fun _ => ih).trans and_assoc.symm

theorem take (h : Along advance P s actions) (n : Nat) : Along advance P s (actions.take n) := by
  rw [← List.take_append_drop n actions] at h
  exact (append_iff.mp h).1

theorem of_getElem? (h : Along advance P s actions) {n : Nat} {a : α} (ha : actions[n]? = some a) :
    P (runAll advance s (actions.take n)).2 a := by
  obtain ⟨hlt, rfl⟩ := List.getElem?_eq_some_iff.mp ha
  rw [← List.take_append_drop n actions, List.drop_eq_getElem_cons hlt] at h
  exact (append_iff.mp h).2.1

theorem of_forall_mem (h : ∀ a ∈ actions, ∀ s, P s a) : Along advance P s actions := by
  induction actions generalizing s with
  | nil => trivial
  | cons a rest ih =>
    obtain ⟨ha, hrest⟩ := List.forall_mem_cons.mp h
    exact ⟨ha s, ih hrest⟩

/-- What every action keeps that meets the condition, a run of such actions keeps. -/
theorem keeps {Q : σ → Prop} (step : ∀ s a, Q s → P s a → Q (advance s a).2) (start : Q s)
    (h : Along advance P s actions) : Q (runAll advance s actions).2 := by
  induction actions generalizing s with
  | nil => exact start
  | cons a rest ih => exact ih (step s a start h.1) h.2

end Along

/-- What every action keeps, a run keeps. -/
theorem runAll_keeps {Q : σ → Prop} (step : ∀ s a, Q s → Q (advance s a).2) {s : σ} (start : Q s)
    (actions : List α) : Q (runAll advance s actions).2 :=
  Along.keeps (P := fun _ _ => True) (fun s a hs _ => step s a hs) start
    (Along.of_forall_mem fun _ _ _ => trivial)

end FileLocks
