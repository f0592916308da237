/-
  FileLocks/LockTable/Lemmas.lean
  ===============================
  **What the operations of a lock table do to its view.**

  `modeAt_clear`, `modeAt_place` and `modeAt_dropOwner` give the view after each
  operation in terms of the view before it, for any table: intervals, splitting
  and order do not show.
-/
import FileLocks.LockTable.Basic

namespace FileLocks.LockTable

/-! ### The view of a table piece by piece -/

@[simp] theorem modeAt_nil (o : Owner) (b : Nat) : modeAt [] o b = none := rfl

theorem modeAt_cons (l : Lock) (t : LockTable) (o : Owner) (b : Nat) :
    modeAt (l :: t) o b
      = if l.owner = o ∧ b ∈ l.span then some l.mode else modeAt t o b := by
  by_cases h : l.owner = o ∧ b ∈ l.span <;> simp [modeAt, h]

theorem modeAt_append (t u : LockTable) (o : Owner) (b : Nat) :
    modeAt (t ++ u) o b = (modeAt t o b).or (modeAt u o b) := by
  simp [modeAt, List.find?_append, Option.map_or]

/-- What is left of a lock shows its mode on its bytes outside the span. -/
theorem modeAt_without (l : Lock) (s : Span) (o : Owner) (b : Nat) :
    modeAt (l.without s) o b
      = if l.owner = o ∧ b ∈ l.span ∧ b ∉ s then some l.mode else none := by
  unfold Lock.without
  rw [modeAt_append]
  by_cases hl : l.span.first < s.first <;> by_cases hr : s.last < l.span.last <;>
    simp only [hl, hr, dite_true, dite_false, modeAt_cons, modeAt_nil, Span.mem_before,
      Span.mem_after] <;>
    grind [Span.mem_iff]

/-! ### The view after each operation -/

/-- Taking a span out of an owner's locks leaves nothing there, and all else. -/
theorem modeAt_clear (t : LockTable) (o : Owner) (s : Span) (o' : Owner) (b : Nat) :
    (t.clear o s).modeAt o' b = if o' = o ∧ b ∈ s then none else t.modeAt o' b := by
  induction t with
  | nil => simp [clear]
  | cons l t ih =>
    have clear_cons : clear (l :: t) o s
        = (if l.owner = o then l.without s else [l]) ++ clear t o s := by
      simp [clear]
    rw [clear_cons, modeAt_append, ih, modeAt_cons]
    by_cases hl : l.owner = o
    · rw [if_pos hl, modeAt_without l s]
      grind
    · rw [if_neg hl, modeAt_cons, modeAt_nil]
      grind

/-- Locking a span gives its owner the mode on exactly its bytes. -/
theorem modeAt_place (t : LockTable) (o : Owner) (m : Mode) (s : Span) (o' : Owner) (b : Nat) :
    (t.place o m s).modeAt o' b = if o' = o ∧ b ∈ s then some m else t.modeAt o' b := by
  unfold place
  rw [modeAt_cons, modeAt_clear t o s]
  grind

/-- Taking away an owner's locks leaves those of all others. -/
theorem modeAt_dropOwner (t : LockTable) (o o' : Owner) (b : Nat) :
    (t.dropOwner o).modeAt o' b = if o' = o then none else t.modeAt o' b := by
  induction t with
  | nil => simp [dropOwner]
  | cons l t ih =>
    have dropOwner_cons : dropOwner (l :: t) o
        = (if l.owner != o then [l] else []) ++ dropOwner t o := by
      by_cases h : l.owner = o <;> simp [dropOwner, h]
    rw [dropOwner_cons, modeAt_append, ih, modeAt_cons]
    by_cases hl : l.owner = o
    · simp only [hl, bne_self_eq_false, Bool.false_eq_true, if_false, modeAt_nil]
      grind
    · have : (l.owner != o) = true := by simpa using hl
      simp only [this, if_true, modeAt_cons, modeAt_nil]
      grind

end FileLocks.LockTable
