/-
  FileLocks/Proofs/Slots.lean
  ===========================
  **Which slot a step is about.**

  A step fills a slot with a guard, empties one, or leaves the slots as they are.
  The ways to make a guard differ in what they ask for and in nothing else.  Guards
  in slots have not released their locks yet.
-/
import FileLocks.Step

namespace FileLocks

namespace Step

variable {β τ υ : Type} {p : Platform}

/-- The slot in which a step keeps the guard that it makes. -/
def claims? : Step β p τ → Option String
  | lock slot .. => some slot
  | tryLock slot .. => some slot
  | guard slot .. => some slot
  | _ => none

/-- The slot that a step empties. -/
def frees? : Step β p τ → Option String
  | unlock slot => some slot
  | drop slot => some slot
  | _ => none

/-- Whether a step is a request without a guard. -/
def isInvocation : Step β p τ → Bool
  | invoke _ => true
  | _ => false

theorem claims?_eq_none_of_frees {step : Step β p τ} {slot : String}
    (h : step.frees? = some slot) : step.claims? = none := by
  cases step with
  | unlock | drop => rfl
  | invoke | lock | tryLock | guard | info => cases h

theorem frees?_eq_none_of_claims {step : Step β p τ} {slot : String}
    (h : step.claims? = some slot) : step.frees? = none := by
  cases step with
  | lock | tryLock | guard => rfl
  | invoke | info | unlock | drop => cases h

theorem isInvocation_eq_false_of_frees {step : Step β p τ} {slot : String}
    (h : step.frees? = some slot) : step.isInvocation = false := by
  cases step with
  | unlock | drop => rfl
  | invoke | lock | tryLock | guard | info => cases h

@[simp] theorem claims?_mapFile (f : τ → υ) (step : Step β p τ) :
    (step.mapFile f).claims? = step.claims? := by
  cases step <;> rfl

/-- All steps that make a guard make it in the same way. -/
theorem perform_of_claims {σ : Type} [System p σ] [CustomBackend p β σ]
    (slots : Slots β p) {step : Step β p (Handle p)} {slot : String}
    (h : step.claims? = some slot) :
    ∃ b handle wait range mode, step.perform (σ := σ) slots
      = Guard.acquire b handle wait range mode >>= keep slots slot := by
  cases step with
  | lock => cases h; exact ⟨_, _, _, _, _, rfl⟩
  | tryLock => cases h; exact ⟨_, _, _, _, _, rfl⟩
  | guard => cases h; exact ⟨_, _, _, _, _, rfl⟩
  | invoke => cases h
  | info => cases h
  | unlock => cases h
  | drop => cases h

end Step

namespace Slots

variable {β : Type} {p : Platform}

/-- Every kept guard still has its lock to release. -/
def Held (slots : Slots β p) : Prop :=
  ∀ slot g, slots.find? slot = some g → g.held = true

theorem Held.insert {slots : Slots β p} (h : slots.Held) (slot : String) {g : Guard β p}
    (held : g.held = true) : Held (slots.insert slot g) := by
  intro other g' hfound
  rw [NameTable.find?_insert] at hfound
  split at hfound
  · obtain rfl := Option.some.inj hfound
    exact held
  · exact h other g' hfound

theorem Held.erase {slots : Slots β p} (h : slots.Held) (slot : String) :
    Held (slots.erase slot) := by
  intro other g hfound
  rw [NameTable.find?_erase] at hfound
  split at hfound
  · cases hfound
  · exact h other g hfound

end Slots

end FileLocks
