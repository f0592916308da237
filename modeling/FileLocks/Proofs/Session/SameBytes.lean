/-
  FileLocks/Proofs/Session/SameBytes.lean
  =======================================
  **Only the bytes of a range matter.**

  A range may be written in several ways: a negative length counts back from the offset,
  and a range to the end stops where locks can end.  Ranges that cover the same bytes are
  read as the same span (`ByteRange.SameBytes.span_eq`), so a session in which ranges are
  written in other ways is a variation of the first, and answers and locks are the same.
-/
import FileLocks.Proofs.Session.Variations

namespace FileLocks

/-! ### Ranges with the same bytes -/

namespace ByteRange

/-- Both ranges are accepted, and they cover the same bytes. -/
structure SameBytes (r r' : ByteRange) : Prop where
  acceptable : r.Acceptable
  acceptable' : r'.Acceptable
  covers_iff : ∀ b, r'.Covers b ↔ r.Covers b

/-- Ranges with the same bytes are read as the same span. -/
theorem SameBytes.span_eq {r r' : ByteRange} (h : r.SameBytes r') : r'.span = r.span := by
  obtain ⟨s, hs⟩ := exists_span_iff.mpr h.acceptable
  obtain ⟨s', hs'⟩ := exists_span_iff.mpr h.acceptable'
  have hmem : ∀ b, b ∈ s' ↔ b ∈ s := by
    intro b
    rw [mem_span_iff hs, mem_span_iff hs', h.covers_iff]
  rw [hs, hs', Span.eq_of_mem_iff hmem]

/-- To count back from an offset is to count up from where that leads. -/
theorem sameBytes_backwards {offset n : Int64} (hn : 1 ≤ n) (hoffset : n ≤ offset) :
    SameBytes ⟨offset, -n⟩ ⟨offset - n, n⟩ := by
  rw [Int64.le_iff_toInt_le] at hn hoffset
  have hone : (1 : Int64).toInt = 1 := rfl
  have hlt := offset.toInt_lt
  have hneg : (-n).toInt = -n.toInt := by
    rw [Int64.toInt_neg]
    exact Int.bmod_eq_of_le (by omega) (by omega)
  have hsub : (offset - n).toInt = offset.toInt - n.toInt := by
    rw [Int64.toInt_sub]
    exact Int.bmod_eq_of_le (by omega) (by omega)
  constructor
  · simp only [Acceptable, hneg]
    omega
  · simp only [Acceptable, hsub]
    omega
  · intro b
    simp only [Covers, hneg, hsub]
    omega

/-- A range to the end stops where locks can end. -/
theorem sameBytes_toEnd {o : Int64} (ho : 1 ≤ o) :
    SameBytes (toEnd o) ⟨o, Int64.ofInt (0x8000000000000000 - o.toInt)⟩ := by
  rw [Int64.le_iff_toInt_le] at ho
  have hone : (1 : Int64).toInt = 1 := rfl
  have hzero : (0 : Int64).toInt = 0 := rfl
  have hlt := o.toInt_lt
  have hlength : (Int64.ofInt (0x8000000000000000 - o.toInt)).toInt
      = 0x8000000000000000 - o.toInt :=
    Int64.toInt_ofInt_of_le (by omega) (by omega)
  have hstart : 0 ≤ o.toInt := by omega
  constructor
  · exact ⟨hstart, Or.inl hzero⟩
  · simp only [Acceptable, hlength]
    omega
  · intro b
    simp only [Covers, toEnd, hlength, hzero, lastByte, true_and]
    omega

/-- A range is written in the same way, or in another way with the same bytes. -/
def Rewrites (r r' : ByteRange) : Prop :=
  r' = r ∨ r.SameBytes r'

theorem sameSpans_rewrites : SameSpans Rewrites := by
  rintro r r' (rfl | hsame)
  · rfl
  · exact hsame.span_eq

end ByteRange

namespace Session

open ByteRange (SameBytes Rewrites)

/-! ### Actions with other ranges -/

/-- The action with a given range in place of its own, if there is one. -/
def Action.withRange (action : Action) (range? : Option ByteRange) : Action :=
  action.vary ⟨id, range?.getD⟩

/-- If the action is given another range, that has the bytes of its own. -/
def Action.KeepsBytes (action : Action) (range? : Option ByteRange) : Prop :=
  ∀ r ∈ action.range?, ∀ r' ∈ range?, r.SameBytes r'

theorem Action.KeepsBytes.fits {action : Action} {range? : Option ByteRange}
    (h : action.KeepsBytes range?) : action.Fits Rewrites ⟨id, range?.getD⟩ := by
  intro r hr
  cases range? with
  | none => exact Or.inl rfl
  | some r' => exact Or.inr (h r hr r' rfl)

theorem Action.keepsBytes_none {action : Action} : action.KeepsBytes none := nofun

theorem Action.keepsBytes_some {action : Action} {r r' : ByteRange}
    (own : action.range? = some r) (same : r.SameBytes r') : action.KeepsBytes (some r') := by
  intro other hother other' hother'
  obtain rfl := Option.some.inj (own.symm.trans hother)
  obtain rfl := Option.some.inj hother'
  exact same

/-- The answer without the range that a guard shows. -/
def Answer.sansRange : Answer → Answer
  | .step (.granted g) => .step (.granted { g with range := default })
  | .step (.described g) => .step (.described { g with range := default })
  | answer => answer

theorem Answer.Like.sansRange_eq {E : ByteRange → ByteRange → Prop} {answer answer' : Answer}
    (h : Answer.Like E id answer answer') : answer'.sansRange = answer.sansRange := by
  have hguard : ∀ {g g' : Guard Empty .posix}, Guard.Like E g g' →
      { g' with range := default } = { g with range := default } := by
    intro g g' hg
    simp only [hg.backend, hg.handle, hg.mode, hg.held]
  cases h with
  | step h =>
    cases h with
    | report r => rw [Report.mapWait_id]
    | granted hg => exact congrArg (fun g => Answer.step (.granted g)) (hguard hg)
    | described hg => exact congrArg (fun g => Answer.step (.described g)) (hguard hg)
    | dropped => rfl
    | empty => rfl
  | outcome o => rfl
  | child code => rw [Kernel.conflictAs_id]

/-- A session whose ranges are rewritten shows the same, and leaves a session alike. -/
theorem run_withRange {script : List (Action × Option ByteRange)}
    (same : ∀ entry ∈ script, entry.1.KeepsBytes entry.2) :
    let asked := initial.run (script.map Prod.fst)
    let rewritten := initial.run (script.map fun entry => entry.1.withRange entry.2)
    rewritten.1.map Answer.sansRange = asked.1.map Answer.sansRange ∧
      Like Rewrites asked.2 rewritten.2 := by
  intro asked rewritten
  obtain ⟨hanswers, hlast⟩ := like_initial.run ByteRange.sameSpans_rewrites
    sound_initial sound_initial fun entry hentry => (same entry hentry).fits
  refine ⟨?_, hlast⟩
  have hlength : asked.1.length = script.length := (length_runAll _ _).trans (List.length_map _)
  calc rewritten.1.map Answer.sansRange
      = (script.zip asked.1).map fun entry => entry.2.sansRange := by
        rw [← List.forall₂_eq_eq_eq, List.forall₂_map_left_iff, List.forall₂_map_right_iff]
        exact (hanswers.imp fun entry answer' => Answer.Like.sansRange_eq).flip
    _ = ((script.zip asked.1).map Prod.snd).map Answer.sansRange := by
        rw [List.map_map]
        rfl
    _ = asked.1.map Answer.sansRange := by rw [List.map_snd_zip (Nat.le_of_eq hlength)]

/-- **Only the covered bytes matter.**  If some actions of a session are given other
    ranges with the same bytes, then what is seen is the same, apart from the ranges that
    guards show, and so are the locks after every action.  Lengths that count back, and
    ranges to the end, can be written in other ways in this sense. -/
theorem covered_bytes_decide (script : List (Action × Option ByteRange))
    (same : ∀ entry ∈ script, entry.1.KeepsBytes entry.2) :
    let actions := script.map Prod.fst
    let rewritten := script.map fun entry => entry.1.withRange entry.2
    (play rewritten).map Answer.sansRange = (play actions).map Answer.sansRange ∧
    (∀ n, (initial.run (rewritten.take n)).2.process.kernel.locks
      = (initial.run (actions.take n)).2.process.kernel.locks) ∧
    (∀ offset n : Int64, 1 ≤ n → n ≤ offset → SameBytes ⟨offset, -n⟩ ⟨offset - n, n⟩) ∧
    ∀ o : Int64, 1 ≤ o → SameBytes (.toEnd o) ⟨o, Int64.ofInt (0x8000000000000000 - o.toInt)⟩ := by
  intro actions rewritten
  refine ⟨(run_withRange same).1, ?_, fun offset n => ByteRange.sameBytes_backwards,
    fun o => ByteRange.sameBytes_toEnd⟩
  intro n
  have hsame : ∀ entry ∈ script.take n, entry.1.KeepsBytes entry.2 :=
    fun entry hentry => same entry (List.mem_of_mem_take hentry)
  have hlike := (run_withRange hsame).2
  rw [List.map_take, List.map_take] at hlike
  exact congrArg Kernel.locks hlike.kernel

/-- The bytes before an offset are guarded, the rest of the file is locked from there on,
    and a child is refused.  Then the guard's bytes are unlocked under its back.  All
    ranges but the last are rewritten. -/
def mixedForms : List (Action × Option ByteRange) :=
  [(.openFile "a" .readWrite, none), (.openFile "b" .readWrite, none),
    (.step (.guard "x" (.fcntl .openFileDescription) (.file "a") .nonblocking ⟨20, -20⟩
      .exclusive), some ⟨0, 20⟩),
    (.step (.tryLock "y" (.file "b") (.toEnd 30) .shared), some ⟨30, 0x7fffffffffffffe2⟩),
    (.child (.acquireCode (.file "b") false 35 (-10) false), some ⟨25, 10⟩),
    (.step (.info "x"), none),
    (.step (.invoke (.request (.checked (.fcntl .openFileDescription)) (.file "a") ⟨20, -20⟩
      .release)), none)]

/-- The actions with their ranges rewritten. -/
def mixedRewritten : List Action :=
  mixedForms.map fun entry => entry.1.withRange entry.2

/-- What was locked under one form of its range is unlocked under the other. -/
theorem mixed_forms_agree :
    (∀ entry ∈ mixedForms, entry.1.KeepsBytes entry.2) ∧
      (play mixedRewritten).map Answer.sansRange
        = (play (mixedForms.map Prod.fst)).map Answer.sansRange ∧
      (initial.run (mixedRewritten.take 6)).2.process.kernel.view (.description 0) 3
        = some .exclusive ∧
      (initial.run (mixedRewritten.take 7)).2.process.kernel.view (.description 0) 3 = none := by
  have hguard : SameBytes ⟨20, -20⟩ ⟨0, 20⟩ :=
    @ByteRange.sameBytes_backwards 20 20 (by decide) (by decide)
  have hrest : SameBytes (.toEnd 30) ⟨30, 0x7fffffffffffffe2⟩ :=
    @ByteRange.sameBytes_toEnd 30 (by decide)
  have hchild : SameBytes ⟨35, -10⟩ ⟨25, 10⟩ :=
    @ByteRange.sameBytes_backwards 35 10 (by decide) (by decide)
  have same : ∀ entry ∈ mixedForms, entry.1.KeepsBytes entry.2 := by
    simp only [mixedForms, List.forall_mem_cons]
    exact ⟨Action.keepsBytes_none, Action.keepsBytes_none, Action.keepsBytes_some rfl hguard,
      Action.keepsBytes_some rfl hrest, Action.keepsBytes_some rfl hchild,
      Action.keepsBytes_none, Action.keepsBytes_none, List.forall_mem_nil _⟩
  exact ⟨same, (covered_bytes_decide mixedForms same).1, by decide +kernel, by decide +kernel⟩

end Session

end FileLocks
