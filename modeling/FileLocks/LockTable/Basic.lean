/-
  FileLocks/LockTable/Basic.lean
  ==============================
  **Tables of locks.**

  A lock table lists who has locked which span in which mode.  To lock or to
  unlock a span replaces what the same owner had on exactly its bytes, and splits
  a lock that reaches beyond it.

  The view of a table is `modeAt`: what an owner holds on a byte.
-/
import FileLocks.LockTable.Span
import FileLocks.Mode

namespace FileLocks

/-- Who holds a lock. -/
inductive Owner where
  /-- The process under observation. -/
  | process
  /-- A process forked from it. -/
  | child
  /-- An open file description. -/
  | description (id : Nat)
deriving DecidableEq

/-- A lock on a span of bytes. -/
structure Lock where
  owner : Owner
  mode : Mode
  span : Span
deriving DecidableEq

namespace Lock

/-- The locks that are left of a lock when a span is taken out of it. -/
def without (l : Lock) (s : Span) : List Lock :=
  (if h : l.span.first < s.first then [{ l with span := l.span.before s h }] else [])
  ++ (if h : s.last < l.span.last then [{ l with span := l.span.after s h }] else [])

/-- What is left keeps owner and mode, and holds the lock's bytes outside the span. -/
theorem exists_mem_without_iff {l : Lock} {s : Span} {b : Nat} :
    (∃ l' ∈ l.without s, b ∈ l'.span) ↔ b ∈ l.span ∧ b ∉ s := by
  have hs := s.first_le_last
  unfold without
  split <;> split <;> simp [Span.mem_before, Span.mem_after] <;>
    simp only [Span.mem_iff] <;> omega

theorem owner_of_mem_without {l l' : Lock} {s : Span} (h : l' ∈ l.without s) :
    l'.owner = l.owner ∧ l'.mode = l.mode := by
  unfold without at h
  rw [List.mem_append] at h
  rcases h with h | h <;> split at h <;> simp_all

end Lock

/-- The locks on one file. -/
abbrev LockTable : Type := List Lock

namespace LockTable

/-- What an owner holds on a byte. -/
def modeAt (t : LockTable) (o : Owner) (b : Nat) : Option Mode :=
  (t.find? fun l => decide (l.owner = o ∧ b ∈ l.span)).map Lock.mode

/-- Whether an owner other than `o` holds a lock that forbids `o` to lock the span
    in the mode. -/
def conflicts (t : LockTable) (o : Owner) (m : Mode) (s : Span) : Bool :=
  t.any fun l => l.owner != o && l.span.overlaps s && m.conflictsWith l.mode

/-- Take a span out of an owner's locks. -/
def clear (t : LockTable) (o : Owner) (s : Span) : LockTable :=
  t.flatMap fun l => if l.owner = o then l.without s else [l]

/-- Lock a span for an owner, in place of what that owner had on it. -/
def place (t : LockTable) (o : Owner) (m : Mode) (s : Span) : LockTable :=
  ⟨o, m, s⟩ :: t.clear o s

/-- Take away all locks of an owner. -/
def dropOwner (t : LockTable) (o : Owner) : LockTable :=
  t.filter fun l => l.owner != o

end LockTable

end FileLocks
