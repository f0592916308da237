/-
  FileLocks/Proofs/Scripted/Encoding.lean
  =======================================
  **A call tells the request that it makes.**

  On each platform the call of a request can be read back: the handle, the range and
  the operation are found in the words that the system is handed, and on POSIX
  systems the scope is too.  So no two requests make the same call.

  On Windows a range that runs to the end of the file gets a length of its own
  making.  It is `2 ^ 63` or more, and the length of a range that stops is less; so
  the words tell whether the range runs to the end, and with which words it was
  locked says which range has to be unlocked.
-/
import FileLocks.Proofs.Scripted.Requests

namespace FileLocks

namespace Win32

/-! ### Words -/

theorem toNat_lowWord (w : UInt64) : (lowWord w).toNat = w.toNat % 0x100000000 :=
  UInt64.toNat_toUInt32 w

theorem toNat_highWord (w : UInt64) : (highWord w).toNat = w.toNat / 0x100000000 := by
  have hbound := w.toNat_lt
  simp only [highWord, UInt64.toNat_toUInt32, UInt64.toNat_shiftRight, UInt64.reduceToNat,
    Nat.shiftRight_eq_div_pow, Nat.reduceMod]
  omega

theorem joinWords_split (w : UInt64) : joinWords (lowWord w) (highWord w) = w := by
  apply UInt64.toNat_inj.mp
  have hbound := w.toNat_lt
  simp only [joinWords, UInt64.toNat_add, UInt64.toNat_shiftLeft, UInt32.toNat_toUInt64,
    toNat_lowWord, toNat_highWord, Nat.shiftLeft_eq, UInt64.reduceToNat, Nat.reduceMod,
    Nat.reducePow]
  omega

/-- The words of a range: those of its length, then those of its offset. -/
def words? : Call .win32 → Option (UInt32 × UInt32 × UInt32 × UInt32)
  | .lockFileEx _ _ _ lengthLow lengthHigh overlapped =>
    some (lengthLow, lengthHigh, overlapped.offsetLow, overlapped.offsetHigh)
  | .unlockFileEx _ _ lengthLow lengthHigh overlapped =>
    some (lengthLow, lengthHigh, overlapped.offsetLow, overlapped.offsetHigh)
  | .getOverlappedResult .. => none

/-- The extent whose words a call has. -/
def Extent.ofWords : UInt32 × UInt32 × UInt32 × UInt32 → Extent
  | (lengthLow, lengthHigh, offsetLow, offsetHigh) =>
    ⟨joinWords offsetLow offsetHigh, joinWords lengthLow lengthHigh⟩

theorem words?_encode (file : Handle .win32) (e : Extent) (operation : Operation) :
    words? (encode file e operation)
      = some (lowWord e.length, highWord e.length, lowWord e.offset, highWord e.offset) := by
  cases operation <;> rfl

theorem ofWords_encode (file : Handle .win32) (e : Extent) (operation : Operation) :
    (words? (encode file e operation)).map Extent.ofWords = some e := by
  simp only [words?_encode, Option.map_some, Extent.ofWords, joinWords_split]

/-! ### Extents -/

theorem toUInt64_lt {x : Int64} (h : 0 ≤ x) : x.toUInt64 < 0x8000000000000000 := by
  have hbound := x.toInt_lt
  have hword : x.toUInt64.toNat = x.toInt.toNat := Int64.toNat_toUInt64_of_le h
  rw [UInt64.lt_iff_toNat_lt, hword]
  simp only [UInt64.reduceToNat]
  omega

theorem toNat_upToLast (offset : UInt64) :
    (0xFFFFFFFFFFFFFFFF - offset).toNat = 0xFFFFFFFFFFFFFFFF - offset.toNat := by
  have hbound := offset.toNat_lt
  have hle : offset ≤ 0xFFFFFFFFFFFFFFFF := by
    rw [UInt64.le_iff_toNat_le]
    simp only [UInt64.reduceToNat]
    omega
  rw [UInt64.toNat_sub_of_le _ _ hle]
  rfl

/-- The length up to the largest offset is none that a range has which stops. -/
theorem not_toEnd_lt {offset : UInt64} (h : offset < 0x8000000000000000) :
    ¬ 0xFFFFFFFFFFFFFFFF - offset < 0x8000000000000000 := by
  have hbound : offset.toNat < 0x8000000000000000 := UInt64.lt_iff_toNat_lt.mp h
  rw [UInt64.lt_iff_toNat_lt, toNat_upToLast]
  simp only [UInt64.reduceToNat]
  omega

theorem extent?_of_nonneg {r : ByteRange} (hoffset : 0 ≤ r.offset) (hlength : 0 ≤ r.length) :
    ∃ e, extent? r = some e := by
  unfold extent?
  rw [if_neg]
  · exact ⟨_, rfl⟩
  · rw [not_or, Int64.not_lt, Int64.not_lt]
    exact ⟨hoffset, hlength⟩

/-- An extent tells its range. -/
theorem toRange_of_extent? {r : ByteRange} {e : Extent} (h : extent? r = some e) :
    e.toRange = r := by
  obtain ⟨offset, length⟩ := r
  unfold extent? at h
  split at h
  · cases h
  · next hsigns =>
    rw [not_or, Int64.not_lt, Int64.not_lt] at hsigns
    obtain ⟨hoffset, hlength⟩ := hsigns
    obtain rfl := Option.some.inj h
    unfold Extent.toRange
    dsimp only
    by_cases hend : length = 0
    · subst hend
      rw [if_pos (ByteRange.isToEnd_iff.mpr rfl), if_neg (not_toEnd_lt (toUInt64_lt hoffset)),
        Int64.toInt64_toUInt64]
    · rw [if_neg (mt ByteRange.isToEnd_iff.mp hend), if_pos (toUInt64_lt hlength),
        Int64.toInt64_toUInt64, Int64.toInt64_toUInt64]

/-! ### Calls -/

theorem failImmediately_flags (wait : Wait) (mode : Mode) :
    (if flags wait mode &&& failImmediatelyFlag = 0 then Wait.blocking else .nonblocking)
      = wait := by
  cases wait <;> cases mode <;> rfl

theorem exclusive_flags (wait : Wait) (mode : Mode) :
    (if flags wait mode &&& exclusiveFlag = 0 then Mode.shared else .exclusive) = mode := by
  cases wait <;> cases mode <;> rfl

theorem decode?_encode {r : Request .win32} {e : Extent} (h : extent? r.range = some e) :
    decode? (encode r.handle e r.operation) = some r := by
  obtain ⟨handle, range, operation⟩ := r
  obtain rfl : e.toRange = range := toRange_of_extent? h
  cases operation with
  | acquire wait mode =>
    simp only [encode, decode?, overlappedAt, joinWords_split, failImmediately_flags,
      exclusive_flags]
  | release => simp only [encode, decode?, overlappedAt, joinWords_split]

/-- Two calls have the same words if and only if they are about the same range. -/
theorem words?_eq_iff (r r' : Request .win32) {e e' : Extent} (h : extent? r.range = some e)
    (h' : extent? r'.range = some e') :
    words? (encode r.handle e r.operation) = words? (encode r'.handle e' r'.operation)
      ↔ r.range = r'.range := by
  constructor
  · intro hwords
    have hextents := congrArg (Option.map Extent.ofWords) hwords
    rw [ofWords_encode, ofWords_encode] at hextents
    obtain rfl := Option.some.inj hextents
    rw [← toRange_of_extent? h, ← toRange_of_extent? h']
  · intro hrange
    rw [hrange] at h
    obtain rfl := Option.some.inj (h.symm.trans h')
    cases r.operation <;> cases r'.operation <;> rfl

end Win32

/-! ### Requests -/

/-- The request that a call makes, with the scope of its lock where locks have one. -/
def Call.request? : {p : Platform} → Call p → Option (Option Posix.Scope × Request p)
  | .posix, call => (Posix.decode? call).map fun (scope, r) => (some scope, r)
  | .win32, call => (Win32.decode? call).map fun r => (none, r)

namespace Backend

variable {p : Platform}

/-- The backend makes the request by a certain call and asks for nothing else, though
    it may wait for the end. -/
def MakesBy (b : Backend Recorder p) (r : Request p) (s : Scripted p) (call : Call p) : Prop :=
  requests ((b.submit r).run s).2.events = requests s.events ++ [.call call]

theorem makesBy_iff {b : Backend Recorder p} {r : Request p} {s : Scripted p} {call : Call p} :
    b.MakesBy r s call ↔ b.event? r = some (.call call) := by
  unfold MakesBy
  rw [requests_submit, List.append_right_inj]
  cases b.event? r with
  | none => simp
  | some e => simp

theorem request?_of_event? : ∀ {p : Platform} {b : Backend Recorder p} {r : Request p}
    {call : Call p}, b.event? r = some (.call call) → call.request? = some (b.scope?, r)
  | _, fcntl scope, r, call, h => by
    obtain rfl : Posix.encode scope r = call := Event.call.inj (Option.some.inj h)
    simp only [Call.request?, Posix.decode?_encode, Option.map_some, scope?]
  | _, lockFileEx, r, call, h => by
    simp only [event?] at h
    rcases Option.map_eq_some_iff.mp h with ⟨e, hextent, hcall⟩
    obtain rfl := Event.call.inj hcall
    simp only [Call.request?, Win32.decode?_encode hextent, Option.map_some, scope?]
  | _, custom _, r, call, h => by cases h
  | _, reference target, r, call, h => request?_of_event? (b := target) h

/-- **A call tells its request.**  Whatever the system is like, the call by which a backend
    makes a request says who asks for what.  On POSIX systems every request is made, on
    Windows every one without negative words.  So different requests make different
    calls, and on Windows the words of a lock are those that remove it, and no others. -/
theorem calls_tell_requests :
    (∀ {p : Platform} (b : Backend Recorder p) (r : Request p) (s : Scripted p) (call : Call p),
      b.MakesBy r s call → call.request? = some (b.scope?, r)) ∧
    (∀ (scope : Posix.Scope) (r : Request .posix) (s : Scripted .posix),
      ∃ cmd type, (fcntl scope).MakesBy r s
        (.fcntl r.handle cmd ⟨type, 0, r.range.offset, r.range.length, 0⟩)) ∧
    (∀ (r : Request .win32) (s : Scripted .win32), 0 ≤ r.range.offset → 0 ≤ r.range.length →
      ∃ call, lockFileEx.MakesBy r s call) ∧
    (∀ {p : Platform} (b b' : Backend Recorder p) (r r' : Request p) (s s' : Scripted p)
      (call : Call p), b.MakesBy r s call → b'.MakesBy r' s' call →
      b.scope? = b'.scope? ∧ r = r') ∧
    ∀ (file : Handle .win32) (wait : Wait) (mode : Mode) (range range' : ByteRange)
      (s s' : Scripted .win32) (lock unlock : Call .win32),
      lockFileEx.MakesBy ⟨file, range, .acquire wait mode⟩ s lock →
      lockFileEx.MakesBy ⟨file, range', .release⟩ s' unlock →
      (Win32.words? lock = Win32.words? unlock ↔ range = range') := by
  refine ⟨?tells, ?posix, ?win32, ?apart, ?words⟩
  case tells =>
    intro p b r s call hcall
    exact request?_of_event? (makesBy_iff.mp hcall)
  case posix =>
    intro scope r s
    exact ⟨_, _, makesBy_iff.mpr rfl⟩
  case win32 =>
    intro r s hoffset hlength
    rcases Win32.extent?_of_nonneg hoffset hlength with ⟨e, hextent⟩
    refine ⟨Win32.encode r.handle e r.operation, makesBy_iff.mpr ?_⟩
    simp only [event?, hextent, Option.map_some]
  case apart =>
    intro p b b' r r' s s' call hcall hcall'
    have htells := request?_of_event? (makesBy_iff.mp hcall)
    rw [request?_of_event? (makesBy_iff.mp hcall')] at htells
    obtain ⟨hscope, hr⟩ := Prod.mk.inj (Option.some.inj htells)
    exact ⟨hscope.symm, hr.symm⟩
  case words =>
    intro file wait mode range range' s s' lock unlock hlock hunlock
    have hlock := makesBy_iff.mp hlock
    have hunlock := makesBy_iff.mp hunlock
    simp only [event?] at hlock hunlock
    rcases Option.map_eq_some_iff.mp hlock with ⟨e, hextent, heq⟩
    rcases Option.map_eq_some_iff.mp hunlock with ⟨e', hextent', heq'⟩
    obtain rfl := Event.call.inj heq
    obtain rfl := Event.call.inj heq'
    exact Win32.words?_eq_iff ⟨file, range, .acquire wait mode⟩ ⟨file, range', .release⟩ hextent
      hextent'

/-- The bytes from offset 5 on are locked and unlocked with the same words. -/
theorem toEnd_told :
    let lock : Call .win32 := .lockFileEx (.object 4) 3 0 0xFFFFFFFA 0xFFFFFFFF ⟨5, 0, 0⟩
    let unlock : Call .win32 := .unlockFileEx (.object 4) 0 0xFFFFFFFA 0xFFFFFFFF ⟨5, 0, 0⟩
    let r : Request .win32 := ⟨.object 4, .toEnd 5, .acquire .nonblocking .exclusive⟩
    lockFileEx.MakesBy r (Scripted.fresh 0 []) lock ∧ lock.request? = some (none, r) ∧
      lockFileEx.MakesBy ⟨.object 4, .toEnd 5, .release⟩ (Scripted.fresh 0 []) unlock ∧
      Win32.words? lock = Win32.words? unlock := by
  intro lock unlock r
  have hlock : lockFileEx.MakesBy r (Scripted.fresh 0 []) lock := makesBy_iff.mpr (by decide)
  have hunlock : lockFileEx.MakesBy ⟨.object 4, .toEnd 5, .release⟩ (Scripted.fresh 0 []) unlock :=
    makesBy_iff.mpr (by decide)
  obtain ⟨tells, -, -, -, words⟩ := calls_tell_requests
  refine ⟨hlock, tells lockFileEx r _ lock hlock, hunlock, ?_⟩
  apply (words (.object 4) .nonblocking .exclusive (.toEnd 5) (.toEnd 5) _ _ lock unlock hlock
    hunlock).mpr
  rfl

end Backend

end FileLocks
