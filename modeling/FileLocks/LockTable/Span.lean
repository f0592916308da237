/-
  FileLocks/LockTable/Span.lean
  =============================
  **The bytes that a range covers.**

  A POSIX system reads a range as a span of bytes between `0` and `2 ^ 63 - 1`, or
  refuses it.  A positive length counts upwards from the offset, a negative one
  covers the bytes before it, and the length zero covers everything from the
  offset on.

  `ByteRange.Acceptable` and `ByteRange.Covers` say the same without the span:
  `ByteRange.exists_span_iff` and `ByteRange.mem_span_iff` tie the two together.
-/
import FileLocks.ByteRange
import FileLocks.Failure.Errno

namespace FileLocks

/-! ### Spans -/

/-- The last byte that a lock can cover, `2 ^ 63 - 1`. -/
def lastByte : Nat := 0x7fffffffffffffff

/-- The bytes from `first` to `last`, both included.  There is at least one, and all of them
    can be locked. -/
structure Span where
  first : Nat
  last : Nat
  first_le_last : first ≤ last
  last_le_lastByte : last ≤ lastByte
deriving DecidableEq

namespace Span

instance : Membership Nat Span :=
  ⟨fun s b => s.first ≤ b ∧ b ≤ s.last⟩

theorem mem_iff {s : Span} {b : Nat} : b ∈ s ↔ s.first ≤ b ∧ b ≤ s.last :=
  Iff.rfl

instance (b : Nat) (s : Span) : Decidable (b ∈ s) :=
  inferInstanceAs (Decidable (s.first ≤ b ∧ b ≤ s.last))

/-- The bytes from `start` up to the one before `stop`. -/
def upTo (start stop : Int) (nonempty : start < stop) (within : stop ≤ 0x8000000000000000) :
    Span where
  first := start.toNat
  last := (stop - 1).toNat
  first_le_last := by omega
  last_le_lastByte := by
    simp only [lastByte]
    omega

theorem mem_upTo {start stop : Int} {nonempty : start < stop} {within : stop ≤ 0x8000000000000000}
    (nonneg : 0 ≤ start) {b : Nat} :
    b ∈ upTo start stop nonempty within ↔ start ≤ b ∧ b < stop := by
  simp only [mem_iff, upTo]
  omega

/-- The part of a span that lies before another one. -/
def before (s t : Span) (h : s.first < t.first) : Span where
  first := s.first
  last := min s.last (t.first - 1)
  first_le_last := by
    have := s.first_le_last
    omega
  last_le_lastByte := Nat.le_trans (Nat.min_le_left _ _) s.last_le_lastByte

/-- The part of a span that lies after another one. -/
def after (s t : Span) (h : t.last < s.last) : Span where
  first := max s.first (t.last + 1)
  last := s.last
  first_le_last := by
    have := s.first_le_last
    omega
  last_le_lastByte := s.last_le_lastByte

theorem mem_before {s t : Span} (h : s.first < t.first) {b : Nat} :
    b ∈ s.before t h ↔ b ∈ s ∧ b < t.first := by
  simp only [mem_iff, before]
  omega

theorem mem_after {s t : Span} (h : t.last < s.last) {b : Nat} :
    b ∈ s.after t h ↔ b ∈ s ∧ t.last < b := by
  simp only [mem_iff, after]
  omega

/-- A span is told from its bytes. -/
theorem eq_of_mem_iff {s t : Span} (h : ∀ b, b ∈ s ↔ b ∈ t) : s = t := by
  have hs := s.first_le_last
  have ht := t.first_le_last
  have hfirst := h s.first
  have hlast := h s.last
  have hfirst' := h t.first
  have hlast' := h t.last
  simp only [mem_iff] at hfirst hlast hfirst' hlast'
  cases s
  cases t
  simp only [mk.injEq]
  dsimp only at *
  omega

/-- Whether two spans have a byte in common. -/
def overlaps (s t : Span) : Bool :=
  s.first ≤ t.last && t.first ≤ s.last

theorem overlaps_iff {s t : Span} : s.overlaps t = true ↔ ∃ b, b ∈ s ∧ b ∈ t := by
  have hs := s.first_le_last
  have ht := t.first_le_last
  simp only [overlaps, Bool.and_eq_true, decide_eq_true_eq, mem_iff]
  constructor
  · intro h
    exact ⟨max s.first t.first, by omega, by omega⟩
  · rintro ⟨b, h⟩
    omega

end Span

/-! ### The span of a range -/

namespace ByteRange

/-- The span that a system reads off a range, or the code with which it refuses. -/
def span (r : ByteRange) : Except Int32 Span :=
  if r.offset.toInt < 0 then .error Errno.EINVAL
  else if hup : 0 < r.length.toInt then
    if hend : 0x8000000000000000 < r.offset.toInt + r.length.toInt then .error Errno.EOVERFLOW
    else .ok (.upTo r.offset.toInt (r.offset.toInt + r.length.toInt) (by omega) (by omega))
  else if hdown : r.length.toInt < 0 then
    if r.offset.toInt + r.length.toInt < 0 then .error Errno.EINVAL
    else .ok (.upTo (r.offset.toInt + r.length.toInt) r.offset.toInt (by omega)
      (Int.le_of_lt r.offset.toInt_lt))
  else .ok (.upTo r.offset.toInt 0x8000000000000000 r.offset.toInt_lt (Int.le_refl _))

/-- A range that lies within the bytes that can be locked. -/
def Acceptable (r : ByteRange) : Prop :=
  0 ≤ r.offset.toInt ∧
    (r.length.toInt = 0 ∨
      (0 < r.length.toInt ∧ r.offset.toInt + r.length.toInt ≤ 0x8000000000000000) ∨
      (r.length.toInt < 0 ∧ 0 ≤ r.offset.toInt + r.length.toInt))

instance (r : ByteRange) : Decidable r.Acceptable := by
  unfold Acceptable
  infer_instance

/-- The bytes that a range is meant to cover. -/
def Covers (r : ByteRange) (b : Nat) : Prop :=
  (r.length.toInt = 0 ∧ r.offset.toInt ≤ b ∧ b ≤ lastByte) ∨
    (0 < r.length.toInt ∧ r.offset.toInt ≤ b ∧ b < r.offset.toInt + r.length.toInt) ∨
    (r.length.toInt < 0 ∧ r.offset.toInt + r.length.toInt ≤ b ∧ b < r.offset.toInt)

instance (r : ByteRange) (b : Nat) : Decidable (r.Covers b) := by
  unfold Covers
  infer_instance

/-- A range has a span exactly when it is acceptable. -/
theorem exists_span_iff {r : ByteRange} : (∃ s, r.span = .ok s) ↔ r.Acceptable := by
  simp only [span, Acceptable]
  split
  · simp; omega
  · split
    · split <;> simp <;> omega
    · split
      · split <;> simp <;> omega
      · simp; omega

/-- The span of a range holds the bytes that the range covers. -/
theorem mem_span_iff {r : ByteRange} {s : Span} (h : r.span = .ok s) {b : Nat} :
    b ∈ s ↔ r.Covers b := by
  simp only [span] at h
  simp only [Covers, lastByte]
  split at h
  · cases h
  · split at h
    · split at h
      · cases h
      · cases h
        rw [Span.mem_upTo (by omega)]
        omega
    · split at h
      · split at h
        · cases h
        · cases h
          rw [Span.mem_upTo (by omega)]
          omega
      · cases h
        rw [Span.mem_upTo (by omega)]
        omega

end ByteRange

end FileLocks
