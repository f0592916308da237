/-
  FileLocks/Mode.lean
  ===================
  **What a lock excludes, and whether to wait for it.**
-/

namespace FileLocks

/-! ### Modes -/

/-- Whether other owners may lock an overlapping range at the same time. -/
inductive Mode where
  /-- A read lock: any number of shared locks may overlap. -/
  | shared
  /-- A write lock: it conflicts with every other lock on an overlapping range. -/
  | exclusive
deriving DecidableEq

namespace Mode

/-- The mode that a plain flag asks for. -/
def ofShared (wantsShared : Bool) : Mode :=
  if wantsShared then shared else exclusive

/-- Two owners may not hold these modes on one byte. -/
def conflictsWith : Mode → Mode → Bool
  | shared, shared => false
  | _, _ => true

/-- The mode's name, as it is printed. -/
def name : Mode → String
  | shared => "Shared"
  | exclusive => "Exclusive"

theorem conflictsWith_eq_true_iff {a b : Mode} :
    a.conflictsWith b = true ↔ a = exclusive ∨ b = exclusive := by
  cases a <;> cases b <;> decide

end Mode

/-! ### Waiting -/

/-- What to do while another owner holds a conflicting lock. -/
inductive Wait where
  /-- Suspend the caller until the lock is granted or the wait is interrupted. -/
  | blocking
  /-- Fail at once. -/
  | nonblocking
deriving DecidableEq

namespace Wait

/-- The policy that a plain flag asks for. -/
def ofBlocking (mayBlock : Bool) : Wait :=
  if mayBlock then blocking else nonblocking

/-- The policy's name, as it is printed. -/
def name : Wait → String
  | blocking => "Blocking"
  | nonblocking => "NonBlocking"

end Wait

end FileLocks
