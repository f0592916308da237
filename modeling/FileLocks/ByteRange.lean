/-
  FileLocks/ByteRange.lean
  ========================
  **Byte ranges of a file.**

  A range is a pair of signed 64-bit words, an offset from the start of the file
  and a length.  The length `0` is special: such a range runs to the end of the
  file, bytes appended later included.  What a negative length means is left to
  the platform: POSIX systems lock the bytes *before* the offset, Windows refuses.
-/
import FileLocks.Text.Decimal
import FileLocks.Text.Record

namespace FileLocks

/-- The sum of two signed 64-bit words, unless it leaves their range. -/
def checkedAdd (a b : Int64) : Option Int64 :=
  let sum := a.toInt + b.toInt
  if -0x8000000000000000 ≤ sum ∧ sum < 0x8000000000000000 then some (Int64.ofInt sum) else none

theorem checkedAdd_eq_some_iff {a b c : Int64} :
    checkedAdd a b = some c ↔ c.toInt = a.toInt + b.toInt := by
  unfold checkedAdd
  dsimp only
  split
  case isTrue h =>
    have ofInt_sum : (Int64.ofInt (a.toInt + b.toInt)).toInt = a.toInt + b.toInt :=
      Int64.toInt_ofInt_of_le h.1 h.2
    constructor
    · intro hc
      rw [← Option.some.inj hc, ofInt_sum]
    · intro hc
      rw [Option.some.injEq, ← Int64.toInt_inj, ofInt_sum, hc]
  case isFalse h =>
    constructor
    · intro hc
      cases hc
    · intro hc
      exact absurd ⟨hc ▸ c.le_toInt, hc ▸ c.toInt_lt⟩ h

/-- A byte range within a file, anchored at the start of the file. -/
structure ByteRange where
  offset : Int64
  length : Int64
deriving DecidableEq

namespace ByteRange

/-- The range from `offset` to the end of the file. -/
def toEnd (offset : Int64) : ByteRange :=
  ⟨offset, 0⟩

/-- The whole file, with anything that is appended later. -/
def wholeFile : ByteRange :=
  toEnd 0

/-- The range of a caller who names none is the whole file. -/
instance : Inhabited ByteRange :=
  ⟨wholeFile⟩

/-- Whether the range runs to the end of the file. -/
def isToEnd (r : ByteRange) : Bool :=
  r.length == 0

/-- Where the range stops: the offset after its last byte.  There is none for a
    range that runs to the end of the file, or when it is no 64-bit word. -/
def stop? (r : ByteRange) : Option Int64 :=
  if r.isToEnd then none else checkedAdd r.offset r.length

/-- The range, shown for inspection. -/
def inspect (r : ByteRange) : String :=
  Text.Record.oneLine
    ⟨"LockRange",
      [⟨"offset", Text.decimal r.offset.toInt⟩, ⟨"length", Text.decimal r.length.toInt⟩]⟩

theorem isToEnd_iff {r : ByteRange} : r.isToEnd = true ↔ r.length = 0 := by
  simp [isToEnd]

theorem stop?_eq_some_iff {r : ByteRange} {e : Int64} :
    r.stop? = some e ↔ r.length ≠ 0 ∧ e.toInt = r.offset.toInt + r.length.toInt := by
  unfold stop?
  split
  case isTrue h => simp [isToEnd_iff.mp h]
  case isFalse h =>
    rw [isToEnd_iff] at h
    simp [h, checkedAdd_eq_some_iff]

end ByteRange

end FileLocks
