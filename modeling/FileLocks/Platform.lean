/-
  FileLocks/Platform.lean
  =======================
  **The two platforms.**

  Everything that a request to the system consists of, and every code that may
  come back, belongs to one platform; the types of this library carry it as an
  index, so that codes and handles of the two are never mixed.

  The platforms also differ in how a system call tells that it failed: on POSIX
  systems it returns `-1`, on Windows it returns the false value `0`.  In both
  cases the reason is then found in a slot of the calling thread, apart from the
  returned value.
-/

namespace FileLocks

/-- A platform whose files can be locked. -/
inductive Platform where
  | posix
  | win32
deriving DecidableEq

namespace Platform

/-- Whether a system call that returned `ret` failed.  Only then does the
    calling thread's error slot hold a code of that call. -/
def reportsFailure : Platform → Int32 → Bool
  | posix, ret => ret == -1
  | win32, ret => ret == 0

/-- What a system call returns when it succeeds and has nothing else to tell. -/
def plainSuccess : Platform → Int32
  | posix => 0
  | win32 => 1

theorem reportsFailure_plainSuccess (p : Platform) :
    p.reportsFailure p.plainSuccess = false := by
  cases p <;> decide

end Platform

end FileLocks
