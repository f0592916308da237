/-
  FileLocks/Proofs/Ranges/Stops.lean
  ==================================
  **Where a range stops, and the bytes that are locked for it.**

  `ByteRange.stop?` adds the words of a range, and knows no sum from `2 ^ 63` on.  A POSIX
  kernel checks the last byte instead, which may be `2 ^ 63 - 1`.  So a range that ends with
  this byte has no stop and is locked all the same; it is then locked like the range that
  runs to the end of the file.  A negative length counts down from the offset: the stop is
  the first byte that is locked, and may be negative.

  What is locked is told by what a process sees that asks for it: `ByteRange.Locks` and
  `ByteRange.Refused`.
-/
import FileLocks.Proofs.Kernel.Processes

namespace FileLocks

open Kernel (ownerOf)

/-! ### The bytes that are locked -/

/-- A process that was told what its kernel answers. -/
def Process.told (p : Process) : Except Int32 Kernel → Outcome .posix × Process
  | .ok kernel => (.ok (), { p with kernel })
  | .error code => (.error ⟨code⟩, { p with errno := code })

theorem Kernel.view_of_serve {k k' : Kernel} {owner : Owner} {access : Access} {s : Span}
    {operation : Operation} (h : k.serve owner access s operation = .ok k') :
    k'.view = fun o b => if o = owner ∧ b ∈ s then operation.leaves else k.view o b := by
  cases operation with
  | release =>
    cases h
    funext o b
    exact LockTable.modeAt_clear k.locks owner s o b
  | acquire wait mode =>
    simp only [serve] at h
    split at h
    · cases h
    · split at h
      · cases h
      · cases h
        funext o b
        exact LockTable.modeAt_place k.locks owner mode s o b

namespace ByteRange

/-- Whoever asks for what on the range, through an open descriptor: the kernel does not find
    fault with the range, and is asked for these bytes and no others. -/
structure Locks (r : ByteRange) (s : Span) : Prop where
  served : ∀ (p : Process) (scope : Posix.Scope) (handle : Handle .posix) (operation : Operation)
    (d : Descriptor), p.kernel.descriptorOf? handle = some d →
      (Posix.submit scope ⟨handle, r, operation⟩).run p
        = p.told (p.kernel.serve (ownerOf p.self d scope) d.access s operation)
  written : ∀ (p p' : Process) (scope : Posix.Scope) (handle : Handle .posix)
    (operation : Operation) (d : Descriptor), p.kernel.descriptorOf? handle = some d →
      (Posix.submit scope ⟨handle, r, operation⟩).run p = (.ok (), p') →
        p'.kernel.view = fun o b =>
          if o = ownerOf p.self d scope ∧ b ∈ s then operation.leaves else p.kernel.view o b

/-- Whoever asks for what on the range, through an open descriptor, fails with this code, and
    nothing is locked or unlocked. -/
def Refused (r : ByteRange) (code : Int32) : Prop :=
  ∀ (p : Process) (scope : Posix.Scope) (handle : Handle .posix) (operation : Operation)
    (d : Descriptor), p.kernel.descriptorOf? handle = some d →
      (Posix.submit scope ⟨handle, r, operation⟩).run p = p.told (.error code)

/-- The bytes from `first` to `last` are locked, both included. -/
def LocksBetween (r : ByteRange) (first last : Int) : Prop :=
  ∃ s, r.Locks s ∧ ∀ b : Nat, b ∈ s ↔ first ≤ b ∧ b ≤ last

variable {r : ByteRange} {s t : Span} {code : Int32}

theorem run_submit_of_descriptorOf? {p : Process} {handle : Handle .posix} {d : Descriptor}
    (h : p.kernel.descriptorOf? handle = some d) (scope : Posix.Scope) (r : ByteRange)
    (operation : Operation) :
    (Posix.submit scope ⟨handle, r, operation⟩).run p
      = p.told (match r.span with
        | .error code => .error code
        | .ok s => p.kernel.serve (ownerOf p.self d scope) d.access s operation) := by
  rw [Process.run_submit, Kernel.answer_encode]
  simp only [h]
  rfl

theorem refused_of_span (h : r.span = .error code) : r.Refused code := by
  intro p scope handle operation d hd
  rw [run_submit_of_descriptorOf? hd, h]

theorem locks_of_span (h : r.span = .ok s) : r.Locks s := by
  constructor
  · intro p scope handle operation d hd
    rw [run_submit_of_descriptorOf? hd, h]
  · intro p p' scope handle operation d hd hrun
    rw [run_submit_of_descriptorOf? hd, h] at hrun
    dsimp only at hrun
    rcases hserve : p.kernel.serve (ownerOf p.self d scope) d.access s operation with _ | kernel
    · rw [hserve] at hrun
      cases hrun
    · rw [hserve] at hrun
      obtain rfl : { p with kernel } = p' := (Prod.mk.inj hrun).2
      exact Kernel.view_of_serve hserve

/-- A process that has the file open for writing, where nothing is locked. -/
def writer : Process :=
  ⟨⟨[⟨3, 0, .readWrite⟩], [], 1⟩, .process, 0⟩

theorem Locks.unique (hs : r.Locks s) (ht : r.Locks t) : s = t := by
  have hopen : writer.kernel.descriptorOf? (.descriptor 3) = some ⟨3, 0, .readWrite⟩ := rfl
  have hrun := hs.served writer .process _ (.acquire .nonblocking .exclusive) _ hopen
  rw [ht.served writer .process _ (.acquire .nonblocking .exclusive) _ hopen] at hrun
  have hlocks := congrArg (fun run => run.2.kernel.locks.map Lock.span) hrun
  exact (List.cons.inj hlocks).1.symm

theorem Locks.not_refused (hs : r.Locks s) : ¬ r.Refused code := by
  intro hcode
  have hopen : writer.kernel.descriptorOf? (.descriptor 3) = some ⟨3, 0, .readWrite⟩ := rfl
  have hrun := hs.served writer .process _ .release _ hopen
  rw [hcode writer .process _ .release _ hopen] at hrun
  cases congrArg Prod.fst hrun

theorem locks_iff : r.Locks s ↔ r.span = .ok s := by
  constructor
  · intro h
    cases hspan : r.span with
    | error code => exact absurd (refused_of_span hspan) h.not_refused
    | ok t => rw [h.unique (locks_of_span hspan)]
  · exact locks_of_span

theorem exists_locks_iff : (∃ s, r.Locks s) ↔ r.Acceptable := by
  simp only [locks_iff, exists_span_iff]

theorem locksBetween_of_covers (range : r.Acceptable) {first last : Int}
    (bytes : ∀ b : Nat, r.Covers b ↔ first ≤ b ∧ b ≤ last) : r.LocksBetween first last := by
  obtain ⟨s, hspan⟩ := exists_span_iff.mpr range
  refine ⟨s, locks_of_span hspan, ?_⟩
  intro b
  rw [mem_span_iff hspan, bytes]

/-- A range that is not acceptable is refused for one of two reasons. -/
theorem refused_of_not_acceptable (h : ¬ r.Acceptable) :
    (r.Refused Errno.EINVAL ∧ (r.offset.toInt < 0 ∨
      (r.length.toInt < 0 ∧ r.offset.toInt + r.length.toInt < 0))) ∨
    (r.Refused Errno.EOVERFLOW ∧ 0 ≤ r.offset.toInt ∧ 0 < r.length.toInt ∧
      0x8000000000000000 < r.offset.toInt + r.length.toInt) := by
  cases hspan : r.span with
  | ok s => exact absurd (exists_span_iff.mp ⟨s, hspan⟩) h
  | error code =>
    have hrefused := refused_of_span hspan
    rcases span_eq_error hspan with ⟨rfl, hwhy⟩ | ⟨rfl, hwhy⟩
    · exact Or.inl ⟨hrefused, hwhy⟩
    · exact Or.inr ⟨hrefused, hwhy⟩

/-! ### Stops -/

theorem stop?_eq_none_iff :
    r.stop? = none ↔ r.length.toInt = 0 ∨
      r.offset.toInt + r.length.toInt < -0x8000000000000000 ∨
      0x8000000000000000 ≤ r.offset.toInt + r.length.toInt := by
  have hlength : r.length = 0 ↔ r.length.toInt = 0 := by
    rw [← Int64.toInt_inj]
    rfl
  simp only [stop?, isToEnd_iff, checkedAdd, hlength, ite_eq_left_iff]
  split
  · next hfits =>
    simp only [reduceCtorEq, imp_false, Decidable.not_not]
    omega
  · next hfits =>
    simp only [implies_true, true_iff]
    omega

theorem span_eq_span_toEnd (hlength : 0 < r.length.toInt)
    (hend : r.offset.toInt + r.length.toInt = 0x8000000000000000) :
    r.span = (toEnd r.offset).span := by
  have hzero : (toEnd r.offset).length.toInt = 0 := rfl
  simp only [span, hzero, hend, Int.lt_irrefl, dite_false, dif_pos hlength]
  rfl

/-- **What a stop says about the bytes that are locked.**  A range upwards with a stop is
    locked up to the byte before; without one it is refused, unless the byte `2 ^ 63 - 1` is
    its last.  A range downwards has a stop, and is locked from there, unless this lies before
    the start of the file.  A range to the end of the file has no stop, and one that starts
    before the file is refused, whatever its stop. -/
theorem stop?_tells_bytes (r : ByteRange) :
    (0 ≤ r.offset.toInt → 0 < r.length.toInt →
      (∀ e, r.stop? = some e → r.LocksBetween r.offset.toInt (e.toInt - 1)) ∧
      (r.stop? = none →
        ((∃ s, r.Locks s) ↔ r.offset.toInt + r.length.toInt = 0x8000000000000000) ∧
        ((∃ s, r.Locks s) → ∀ s, r.Locks s ↔ (toEnd r.offset).Locks s) ∧
        ((¬ ∃ s, r.Locks s) → r.Refused Errno.EOVERFLOW))) ∧
    (0 ≤ r.offset.toInt → r.length.toInt < 0 →
      ∃ e, r.stop? = some e ∧
        ((∃ s, r.Locks s) ↔ 0 ≤ e.toInt) ∧
        ((∃ s, r.Locks s) → r.LocksBetween e.toInt (r.offset.toInt - 1)) ∧
        ((¬ ∃ s, r.Locks s) → r.Refused Errno.EINVAL)) ∧
    (0 ≤ r.offset.toInt → r.length.toInt = 0 →
      r.stop? = none ∧ r.LocksBetween r.offset.toInt 0x7fffffffffffffff) ∧
    (r.offset.toInt < 0 → r.Refused Errno.EINVAL) := by
  refine ⟨?upwards, ?downwards, ?toEnd, ?beforeStart⟩
  case upwards =>
    intro hoffset hlength
    refine ⟨?_, ?_⟩
    · intro e hstop
      obtain ⟨-, hsum⟩ := stop?_eq_some_iff.mp hstop
      have hbound := e.toInt_lt
      apply locksBetween_of_covers
      · unfold Acceptable
        omega
      · intro b
        unfold Covers
        omega
    · intro hstop
      have hsum := stop?_eq_none_iff.mp hstop
      have hlocks : (∃ s, r.Locks s) ↔ r.offset.toInt + r.length.toInt = 0x8000000000000000 := by
        rw [exists_locks_iff]
        unfold Acceptable
        omega
      refine ⟨hlocks, ?_, ?_⟩
      · intro hends s
        rw [locks_iff, locks_iff, span_eq_span_toEnd hlength (hlocks.mp hends)]
      · intro hends
        rw [exists_locks_iff] at hends
        rcases refused_of_not_acceptable hends with ⟨-, hwhy⟩ | ⟨hrefused, -⟩
        · omega
        · exact hrefused
  case downwards =>
    intro hoffset hlength
    have hbound := r.length.le_toInt
    obtain ⟨e, hstop⟩ : ∃ e, r.stop? = some e := by
      apply Option.ne_none_iff_exists'.mp
      rw [ne_eq, stop?_eq_none_iff]
      have := r.offset.toInt_lt
      omega
    obtain ⟨-, hsum⟩ := stop?_eq_some_iff.mp hstop
    have hlocks : (∃ s, r.Locks s) ↔ 0 ≤ e.toInt := by
      rw [exists_locks_iff]
      unfold Acceptable
      omega
    refine ⟨e, hstop, hlocks, ?_, ?_⟩
    · intro hstarts
      apply locksBetween_of_covers (exists_locks_iff.mp hstarts)
      intro b
      unfold Covers
      omega
    · intro hstarts
      rw [exists_locks_iff] at hstarts
      rcases refused_of_not_acceptable hstarts with ⟨hrefused, -⟩ | ⟨-, hwhy⟩
      · exact hrefused
      · omega
  case toEnd =>
    intro hoffset hlength
    refine ⟨stop?_eq_none_iff.mpr (Or.inl hlength), ?_⟩
    apply locksBetween_of_covers
    · exact ⟨hoffset, Or.inl hlength⟩
    · intro b
      simp only [Covers, lastByte]
      omega
  case beforeStart =>
    intro hoffset
    have hrange : ¬ r.Acceptable := fun h => by
      have := h.1
      omega
    rcases refused_of_not_acceptable hrange with ⟨hrefused, -⟩ | ⟨-, hwhy⟩
    · exact hrefused
    · omega

/-- At the limits: the last byte alone is locked, without a stop, and one byte more is too
    much; counting down, the bytes before the offset are locked, and the start of the file
    is the limit. -/
theorem stop?_tells_bytes_limits :
    (∀ s, Locks ⟨0x7fffffffffffffff, 1⟩ s ↔ (toEnd 0x7fffffffffffffff).Locks s) ∧
      LocksBetween ⟨0x7ffffffffffffffe, 1⟩ 0x7ffffffffffffffe 0x7ffffffffffffffe ∧
      Refused ⟨0x7fffffffffffffff, 2⟩ Errno.EOVERFLOW ∧
      LocksBetween ⟨100, -50⟩ 50 99 ∧ Refused ⟨49, -50⟩ Errno.EINVAL ∧
      LocksBetween ⟨100, 0⟩ 100 0x7fffffffffffffff ∧ Refused ⟨-1, 5⟩ Errno.EINVAL := by
  obtain ⟨hlast, -⟩ := stop?_tells_bytes ⟨0x7fffffffffffffff, 1⟩
  obtain ⟨hbefore, -⟩ := stop?_tells_bytes ⟨0x7ffffffffffffffe, 1⟩
  obtain ⟨hbeyond, -⟩ := stop?_tells_bytes ⟨0x7fffffffffffffff, 2⟩
  obtain ⟨-, hdown, -⟩ := stop?_tells_bytes ⟨100, -50⟩
  obtain ⟨-, hbelow, -⟩ := stop?_tells_bytes ⟨49, -50⟩
  obtain ⟨-, -, htoEnd, -⟩ := stop?_tells_bytes ⟨100, 0⟩
  obtain ⟨-, -, -, hnegative⟩ := stop?_tells_bytes ⟨-1, 5⟩
  refine ⟨?_, ?_, ?_, ?_, ?_, ?_, ?_⟩
  · obtain ⟨hlocks, hsame, -⟩ := (hlast (by decide) (by decide)).2 (by decide)
    exact hsame (hlocks.mpr (by decide))
  · exact (hbefore (by decide) (by decide)).1 0x7fffffffffffffff (by decide)
  · obtain ⟨hlocks, -, hrefused⟩ := (hbeyond (by decide) (by decide)).2 (by decide)
    exact hrefused (mt hlocks.mp (by decide))
  · obtain ⟨e, hstop, hlocks, hbetween, -⟩ := hdown (by decide) (by decide)
    obtain rfl : 50 = e := Option.some.inj hstop
    exact hbetween (hlocks.mpr (by decide))
  · obtain ⟨e, hstop, hlocks, -, hrefused⟩ := hbelow (by decide) (by decide)
    obtain rfl : -1 = e := Option.some.inj hstop
    exact hrefused (mt hlocks.mp (by decide))
  · exact (htoEnd (by decide) (by decide)).2
  · exact hnegative (by decide)

end ByteRange

end FileLocks
