/-
  FileLocks/Handle.lean
  =====================
  **Handles of open files.**

  A handle is a borrowed number: a 32-bit file descriptor on POSIX systems, a
  64-bit object handle on Windows.  It opens, duplicates and closes nothing.  Any
  number is accepted; those that cannot name an open file are told apart by
  `isValid`, so that a request through one of them can be refused before the
  system is asked.
-/
import FileLocks.Platform
import FileLocks.Text.Decimal

namespace FileLocks

/-- A borrowed reference to an open file. -/
inductive Handle : Platform → Type where
  | descriptor (number : Int32) : Handle .posix
  | object (value : Int64) : Handle .win32
deriving DecidableEq

namespace Handle

/-- The number that the handle borrows. -/
def raw {p : Platform} : Handle p → Int
  | descriptor number => number.toInt
  | object value => value.toInt

/-- The handle of a number, cut to the width that the platform gives handles. -/
def ofRaw : (p : Platform) → Int → Handle p
  | .posix, raw => descriptor (Int32.ofInt raw)
  | .win32, raw => object (Int64.ofInt raw)

/-- A handle that never names an open file. -/
def invalid : (p : Platform) → Handle p
  | .posix => descriptor (-1)
  | .win32 => object (-1)

/-- Whether the number could name an open file.  On POSIX systems negative
    numbers cannot; on Windows the null handle and `-1` cannot.  A handle whose
    file was closed still passes, and is for the system to refuse. -/
def isValid {p : Platform} : Handle p → Bool
  | descriptor number => 0 ≤ number
  | object value => value != 0 && value != -1

/-- The handle, shown for inspection. -/
def inspect {p : Platform} (h : Handle p) : String :=
  "FileHandle(" ++ Text.decimal h.raw ++ ")"

theorem isValid_invalid (p : Platform) : (invalid p).isValid = false := by
  cases p <;> decide

theorem ofRaw_raw {p : Platform} (h : Handle p) : ofRaw p h.raw = h := by
  cases h <;> simp [ofRaw, raw]

end Handle

end FileLocks
