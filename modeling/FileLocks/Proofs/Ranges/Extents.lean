/-
  FileLocks/Proofs/Ranges/Extents.lean
  ====================================
  **The bytes that Windows locks, and those that POSIX systems lock.**

  An extent is a range in unsigned words.  Nothing is lost on the way, nothing wraps
  around, and the halves of its words that a call has make up the words again.

  A range that runs to the end of the file ends with the byte `2 ^ 64 - 2` on Windows and
  with `2 ^ 63 - 1` on POSIX systems.  On the bytes that both can lock a range without
  negative words is the same everywhere, and two ranges that have a byte in common on one
  platform have one in common on the other.
-/
import FileLocks.Proofs.Ranges.Stops
import FileLocks.Proofs.Scripted.Encoding

namespace FileLocks

namespace Win32

/-! ### Extents -/

/-- The bytes of an extent. -/
instance : Membership Nat Extent :=
  ⟨fun e b => e.offset.toNat ≤ b ∧ b < e.offset.toNat + e.length.toNat⟩

variable {r r' : ByteRange} {e e' : Extent}

theorem Extent.mem_iff {b : Nat} :
    b ∈ e ↔ e.offset.toNat ≤ b ∧ b < e.offset.toNat + e.length.toNat :=
  Iff.rfl

theorem extent?_eq_none_iff : extent? r = none ↔ r.offset.toInt < 0 ∨ r.length.toInt < 0 := by
  have hoffset : r.offset < 0 ↔ r.offset.toInt < 0 := Int64.lt_iff_toInt_lt
  have hlength : r.length < 0 ↔ r.length.toInt < 0 := Int64.lt_iff_toInt_lt
  rw [← hoffset, ← hlength]
  unfold extent?
  split
  · next h => simp only [h]
  · next h => simp only [h, reduceCtorEq]

/-- The words of an extent, as numbers. -/
structure Extent.Measures (e : Extent) (r : ByteRange) : Prop where
  nonneg : 0 ≤ r.length.toInt
  offset : (e.offset.toNat : Int) = r.offset.toInt
  length : 0 < r.length.toInt → (e.length.toNat : Int) = r.length.toInt
  toEnd : r.length.toInt = 0 → e.offset.toNat + e.length.toNat = 0xffffffffffffffff

theorem toNat_toUInt64 {x : Int64} (h : 0 ≤ x.toInt) : (x.toUInt64.toNat : Int) = x.toInt := by
  rw [Int64.toNat_toUInt64_of_le (Int64.le_iff_toInt_le.mpr h)]
  exact Int.toNat_of_nonneg h

theorem measures_of_extent? (h : extent? r = some e) : e.Measures r := by
  have hsigns : ¬ (r.offset.toInt < 0 ∨ r.length.toInt < 0) := by
    rw [← extent?_eq_none_iff, h]
    exact Option.some_ne_none e
  have hoffset := toNat_toUInt64 (x := r.offset) (by omega)
  have hlength := toNat_toUInt64 (x := r.length) (by omega)
  unfold extent? at h
  split at h
  · cases h
  · obtain rfl := Option.some.inj h
    refine ⟨by omega, hoffset, ?_, ?_⟩
    · intro hstops
      have hstops : ¬ r.isToEnd = true := by
        rw [ByteRange.isToEnd_iff, ← Int64.toInt_inj]
        exact Int.ne_of_gt hstops
      simp only [if_neg hstops]
      exact hlength
    · intro hend
      have hend : r.isToEnd = true := by
        rw [ByteRange.isToEnd_iff, ← Int64.toInt_inj]
        exact hend
      have hbound := r.offset.toInt_lt
      simp only [if_pos hend, toNat_upToLast]
      omega

theorem Extent.Measures.mem_iff (h : e.Measures r) {b : Nat} :
    b ∈ e ↔ r.offset.toInt ≤ b ∧
      (if r.length.toInt = 0 then b < 0xffffffffffffffff
        else (b : Int) < r.offset.toInt + r.length.toInt) := by
  have hoffset := h.offset
  have hnonneg := h.nonneg
  rw [Extent.mem_iff]
  split
  · next hend =>
    have hbound := h.toEnd hend
    omega
  · next hstops =>
    have hbound := h.length (by omega)
    omega

/-! ### The bytes of POSIX systems -/

theorem Extent.Measures.mem_span_iff (h : e.Measures r) {s : Span} (hs : r.span = .ok s)
    {b : Nat} : b ∈ s ↔ b ∈ e ∧ b ≤ lastByte := by
  have hrange := ByteRange.exists_span_iff.mp ⟨s, hs⟩
  have hnonneg := h.nonneg
  rw [ByteRange.mem_span_iff hs, h.mem_iff]
  simp only [ByteRange.Covers, ByteRange.Acceptable, lastByte] at hrange ⊢
  split
  · omega
  · omega

theorem exists_common_iff (he : e.Measures r) (he' : e'.Measures r')
    {s s' : Span} (hs : r.span = .ok s) (hs' : r'.span = .ok s') :
    (∃ b, b ∈ e ∧ b ∈ e') ↔ ∃ b, b ∈ s ∧ b ∈ s' := by
  have hoffset := he.offset
  have hoffset' := he'.offset
  have hbound := r.offset.toInt_lt
  have hbound' := r'.offset.toInt_lt
  constructor
  · -- the later of two offsets is a byte that every system can lock
    rintro ⟨b, hb, hb'⟩
    refine ⟨max e.offset.toNat e'.offset.toNat, ?_, ?_⟩
    · rw [he.mem_span_iff hs]
      rw [Extent.mem_iff] at *
      simp only [lastByte]
      omega
    · rw [he'.mem_span_iff hs']
      rw [Extent.mem_iff] at *
      simp only [lastByte]
      omega
  · rintro ⟨b, hb, hb'⟩
    exact ⟨b, ((he.mem_span_iff hs).mp hb).1, ((he'.mem_span_iff hs').mp hb').1⟩

/-! ### The words of a call -/

theorem toNat_eq_words (w : UInt64) :
    (lowWord w).toNat < 0x100000000 ∧ (highWord w).toNat < 0x100000000 ∧
      w.toNat = (lowWord w).toNat + 0x100000000 * (highWord w).toNat := by
  have hbound := w.toNat_lt
  rw [toNat_lowWord, toNat_highWord]
  omega

/-! ### Agreement -/

/-- **Windows and POSIX systems lock the same bytes.**  A range has an extent unless one of
    its words is negative.  The extent has the bytes of the range, and with no length all
    from the offset on that Windows can lock; its words are handed over in halves.  A range
    that a POSIX system accepts is locked there on those bytes of its extent that there are,
    and two such ranges overlap on both platforms or on neither. -/
theorem extents_agree :
    (∀ r : ByteRange, extent? r = none ↔ r.offset.toInt < 0 ∨ r.length.toInt < 0) ∧
    (∀ (r : ByteRange) (e : Extent), extent? r = some e →
      (e.offset.toNat : Int) = r.offset.toInt ∧ 0 < e.length.toNat ∧
        e.offset.toNat + e.length.toNat ≤ 0xffffffffffffffff ∧
        (0 < r.length.toInt → ∀ b : Nat,
          b ∈ e ↔ r.offset.toInt ≤ b ∧ (b : Int) < r.offset.toInt + r.length.toInt) ∧
        (r.length.toInt = 0 → ∀ b : Nat, b ∈ e ↔ r.offset.toInt ≤ b ∧ b ≤ 0xfffffffffffffffe)) ∧
    (∀ (r : Request .win32) (s : Scripted .win32) (e : Extent), extent? r.range = some e →
      ∃ call, Backend.lockFileEx.MakesBy r s call ∧
        ∃ lengthLow lengthHigh offsetLow offsetHigh,
          words? call = some (lengthLow, lengthHigh, offsetLow, offsetHigh) ∧
          (lengthLow.toNat < 0x100000000 ∧ lengthHigh.toNat < 0x100000000 ∧
            e.length.toNat = lengthLow.toNat + 0x100000000 * lengthHigh.toNat) ∧
          (offsetLow.toNat < 0x100000000 ∧ offsetHigh.toNat < 0x100000000 ∧
            e.offset.toNat = offsetLow.toNat + 0x100000000 * offsetHigh.toNat)) ∧
    ∀ (r r' : ByteRange) (e e' : Extent) (s s' : Span), extent? r = some e →
      extent? r' = some e' → r.Locks s → r'.Locks s' →
        (∀ b, b ∈ s ↔ b ∈ e ∧ b ≤ 0x7fffffffffffffff) ∧
        ((∃ b, b ∈ e ∧ b ∈ e') ↔ ∃ b, b ∈ s ∧ b ∈ s') ∧
        ((∃ b, b ∈ e ∧ b ∈ e') ↔ s.overlaps s' = true) := by
  refine ⟨fun r => extent?_eq_none_iff, ?measures, ?words, ?agree⟩
  case measures =>
    intro r e h
    have hmeasures := measures_of_extent? h
    have hnonneg := hmeasures.nonneg
    have hoffset := hmeasures.offset
    have hstops := hmeasures.length
    have hend := hmeasures.toEnd
    have hbound := r.offset.toInt_lt
    have hbound' := r.length.toInt_lt
    refine ⟨hoffset, by omega, by omega, ?_, ?_⟩
    · intro hpos b
      rw [hmeasures.mem_iff, if_neg (by omega)]
    · intro hzero b
      rw [hmeasures.mem_iff, if_pos hzero]
      omega
  case words =>
    intro r s e h
    refine ⟨encode r.handle e r.operation, Backend.makesBy_iff.mpr ?_, _, _, _, _,
      words?_encode _ _ _, toNat_eq_words _, toNat_eq_words _⟩
    simp only [Backend.event?, h, Option.map_some]
  case agree =>
    intro r r' e e' s s' h h' hs hs'
    have hmeasures := measures_of_extent? h
    rw [ByteRange.locks_iff] at hs hs'
    have hcommon := exists_common_iff hmeasures (measures_of_extent? h') hs hs'
    refine ⟨fun b => hmeasures.mem_span_iff hs, hcommon, ?_⟩
    rw [hcommon, Span.overlaps_iff]

/-- At the limits: the range from the last byte of POSIX systems to the end of the file, and
    one of all bytes from `2 ^ 32` up to that byte.  They have it in common. -/
theorem extents_agree_limits :
    let last : ByteRange := .toEnd 0x7fffffffffffffff
    let upper : ByteRange := ⟨0x100000000, 0x7fffffff00000000⟩
    let e : Extent := ⟨0x7fffffffffffffff, 0x8000000000000000⟩
    let e' : Extent := ⟨0x100000000, 0x7fffffff00000000⟩
    (extent? last = some e ∧ extent? upper = some e' ∧
      last.Locks ⟨0x7fffffffffffffff, 0x7fffffffffffffff, by decide, by decide⟩ ∧
      upper.Locks ⟨0x100000000, 0x7fffffffffffffff, by decide, by decide⟩) ∧
    (∀ b : Nat, b ∈ e ↔ last.offset.toInt ≤ b ∧ b ≤ 0xfffffffffffffffe) ∧
    (∀ b : Nat, b ∈ e' ↔ upper.offset.toInt ≤ b ∧
      (b : Int) < upper.offset.toInt + upper.length.toInt) ∧
    ∃ b, b ∈ e ∧ b ∈ e' := by
  intro last upper e e'
  have hextent : extent? last = some e := by decide
  have hextent' : extent? upper = some e' := by decide
  have hspan : ByteRange.span (.toEnd 0x7fffffffffffffff)
      = .ok ⟨0x7fffffffffffffff, 0x7fffffffffffffff, by decide, by decide⟩ := by rfl
  have hspan' : ByteRange.span ⟨0x100000000, 0x7fffffff00000000⟩
      = .ok ⟨0x100000000, 0x7fffffffffffffff, by decide, by decide⟩ := by rfl
  have hlocks := ByteRange.locks_iff.mpr hspan
  have hlocks' := ByteRange.locks_iff.mpr hspan'
  obtain ⟨-, measures, -, agree⟩ := extents_agree
  obtain ⟨-, -, -, -, hlast⟩ := measures last e hextent
  obtain ⟨-, -, -, hupper, -⟩ := measures upper e' hextent'
  obtain ⟨-, -, hoverlap⟩ := agree last upper e e' _ _ hextent hextent' hlocks hlocks'
  exact ⟨⟨hextent, hextent', hlocks, hlocks'⟩, hlast (by decide), hupper (by decide),
    hoverlap.mpr (by decide)⟩

end Win32

end FileLocks
