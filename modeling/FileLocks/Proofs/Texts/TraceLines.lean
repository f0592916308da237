/-
  FileLocks/Proofs/Texts/TraceLines.lean
  ======================================
  **Reading a trace line back.**

  One reader, `TraceRecord.ofLine?`, reads the lines of both platforms.  It finds every
  record in its line and accepts no other text (`ofLine?_eq_some_iff`).  So a line tells
  the words of its record and the outcome, however a failure is worded.
-/
import FileLocks.Proofs.Texts.Reading
import FileLocks.Trace

namespace FileLocks.TraceRecord

open Text (Reader decimal? numeral? decimalChars)
open Text.Reader

variable {p : Platform} {α : Type}

/-! ### The reader -/

/-- A number of a certain type between a label and a mark. -/
def numberField (label : String) (mark : Char) (ofInt : Int → α) : Reader α :=
  field label mark fun cs => (decimal? cs).map ofInt

/-- What came of a call, given how a success is read.  A failure is known by its code;
    the rest of its text is left. -/
def resultReader (success : Reader α) : Reader (Except (Failure p) α) :=
  Except.ok <$> success <|>
    (fun code => .error ⟨code⟩) <$> numberField "Err(Error \x7b code: " ',' Int32.ofInt

def fcntlReader : Reader ((p : Platform) × TraceRecord p) := do
  let fd ← numberField "TRACE fcntl(fd=" ',' (Handle.ofRaw .posix)
  let cmd ← numberField " cmd=" ',' Int32.ofInt
  let type ← numberField " type=" ',' Int16.ofInt
  let start ← numberField " start=" ',' Int64.ofInt
  let len ← numberField " len=" ')' Int64.ofInt
  skip " -> "
  let result ← resultReader (numberField "Ok(" ')' Int32.ofInt)
  return ⟨.posix, .fcntl fd cmd type start len result⟩

def lockFileExReader : Reader ((p : Platform) × TraceRecord p) := do
  let file ← numberField "TRACE LockFileEx(handle=" ',' (Handle.ofRaw .win32)
  let flags ← field " flags=0x" ',' fun cs => (numeral? 16 cs).map UInt32.ofNat
  let offset ← numberField " offset=" ',' fun i => UInt64.ofNat i.toNat
  let length ← numberField " len=" ')' fun i => UInt64.ofNat i.toNat
  skip " -> "
  let result ← resultReader (skip "Ok(())")
  return ⟨.win32, .lockFileEx file flags offset length result⟩

def unlockFileExReader : Reader ((p : Platform) × TraceRecord p) := do
  let file ← numberField "TRACE UnlockFileEx(handle=" ',' (Handle.ofRaw .win32)
  let offset ← numberField " offset=" ',' fun i => UInt64.ofNat i.toNat
  let length ← numberField " len=" ')' fun i => UInt64.ofNat i.toNat
  skip " -> "
  let result ← resultReader (skip "Ok(())")
  return ⟨.win32, .unlockFileEx file offset length result⟩

/-- A line of either platform, as far as its record needs it. -/
def lineReader : Reader ((p : Platform) × TraceRecord p) :=
  fcntlReader <|> lockFileExReader <|> unlockFileExReader

/-- The record that a text is the line of. -/
def ofLine? (text : String) : Option ((p : Platform) × TraceRecord p) :=
  (lineReader.run text.toList).bind fun (r, _) => if r.2.line = text then some r else none

/-! ### Fields and outcomes -/

/-- A number between a label and a mark, as lines have it. -/
def numberText (label : String) (i : Int) (mark : Char) : List Char :=
  label.toList ++ (decimalChars i ++ [mark])

theorem takes_numberField (label : String) {mark : Char} {ofInt : Int → α} {i : Int} {a : α}
    (hsign : mark ≠ '-') (hmark : Text.digit? 10 mark = none) (hvalue : ofInt i = a) :
    (numberField label mark ofInt).Takes (numberText label i mark) a := by
  apply takes_field label (Text.not_mem_decimalChars hsign hmark i)
  rw [Text.decimal?_decimalChars, Option.map_some, hvalue]

theorem takes_extentField (label : String) {mark : Char} (hsign : mark ≠ '-')
    (hmark : Text.digit? 10 mark = none) (w : UInt64) :
    (numberField label mark fun i => UInt64.ofNat i.toNat).Takes (numberText label w.toNat mark)
      w := by
  apply takes_numberField label hsign hmark
  rw [Int.toNat_natCast, UInt64.ofNat_toNat]

theorem toList_inspect (f : Failure p) : ∃ rest,
    f.inspect.toList = numberText "Error \x7b code: " f.code.toInt ',' ++ rest := by
  refine ⟨(" kind: " ++ f.kind.name ++ ", message: " ++ Text.quoted f.message
    ++ " \x7d").toList, ?_⟩
  simp [numberText, Failure.inspect, Failure.toRecord, Text.Record.oneLine, Text.Field.text]

theorem exists_takes_resultText {success : Reader α} {write : α → String}
    (htakes : ∀ a, success.Takes ("Ok(" ++ write a ++ ")").toList a)
    (hrefuses : success.Refuses "Err(".toList) (result : Except (Failure p) α) :
    ∃ text rest, (resultText write result).toList = text ++ rest ∧
      (resultReader success).Takes text result := by
  cases result with
  | ok a => exact ⟨_, [], (List.append_nil _).symm, (htakes a).map.orElse⟩
  | error f =>
    obtain ⟨rest, hinspect⟩ := toList_inspect f
    refine ⟨numberText "Err(Error \x7b code: " f.code.toInt ',', rest ++ [')'], ?_, ?_⟩
    · simp [resultText, hinspect, numberText]
    · have hother : success.Refuses (numberText "Err(Error \x7b code: " f.code.toInt ',') :=
        hrefuses.append ("Error \x7b code: ".toList ++ (decimalChars f.code.toInt ++ [',']))
      apply hother.map.orElse
      exact (takes_numberField _ (by decide) (by decide) (Int32.ofInt_toInt f.code)).map

/-! ### Lines -/

theorem exists_takes_fcntl (fd : Handle .posix) (cmd : Int32) (type : Int16) (start len : Int64)
    (result : Except (Failure .posix) Int32) : ∃ text rest,
    (line (fcntl fd cmd type start len result)).toList = text ++ rest ∧
      fcntlReader.Takes text ⟨.posix, fcntl fd cmd type start len result⟩ := by
  have hsuccess : ∀ ret : Int32, (numberField "Ok(" ')' Int32.ofInt).Takes
      ("Ok(" ++ Text.decimal ret.toInt ++ ")").toList ret := by
    intro ret
    have htext : ("Ok(" ++ Text.decimal ret.toInt ++ ")").toList
        = numberText "Ok(" ret.toInt ')' := by
      simp [numberText]
    rw [htext]
    exact takes_numberField _ (by decide) (by decide) (Int32.ofInt_toInt ret)
  obtain ⟨text, rest, htext, hresult⟩ := exists_takes_resultText hsuccess
    (refuses_field (by simp)) result
  refine ⟨numberText "TRACE fcntl(fd=" fd.raw ',' ++ (numberText " cmd=" cmd.toInt ','
    ++ (numberText " type=" type.toInt ',' ++ (numberText " start=" start.toInt ','
    ++ (numberText " len=" len.toInt ')' ++ (" -> ".toList ++ (text ++ [])))))), rest, ?_, ?_⟩
  · delta line
    simp [htext, numberText]
  · apply Takes.bind (takes_numberField _ (by decide) (by decide) (Handle.ofRaw_raw fd))
    apply Takes.bind (takes_numberField _ (by decide) (by decide) (Int32.ofInt_toInt cmd))
    apply Takes.bind (takes_numberField _ (by decide) (by decide) (Int16.ofInt_toInt type))
    apply Takes.bind (takes_numberField _ (by decide) (by decide) (Int64.ofInt_toInt start))
    apply Takes.bind (takes_numberField _ (by decide) (by decide) (Int64.ofInt_toInt len))
    exact Takes.bind (takes_skip _) (Takes.bind hresult (takes_pure _))

theorem exists_takes_done (result : Outcome .win32) : ∃ text rest,
    (resultText (fun _ => "()") result).toList = text ++ rest ∧
      (resultReader (skip "Ok(())")).Takes text result := by
  have hsuccess : ∀ u : Unit, (skip "Ok(())").Takes ("Ok(" ++ "()" ++ ")").toList u := by
    intro u
    have htext : "Ok(" ++ "()" ++ ")" = "Ok(())" := by decide
    rw [htext]
    exact takes_skip "Ok(())"
  exact exists_takes_resultText hsuccess (refuses_skip (by simp)) result

theorem takes_flags (flags : UInt32) :
    (field " flags=0x" ',' fun cs => (numeral? 16 cs).map UInt32.ofNat).Takes
      (" flags=0x".toList ++ (Nat.toDigits 16 flags.toNat ++ [','])) flags := by
  apply takes_field _ (Text.not_mem_toDigits (by decide) (by decide) (by decide) _)
  rw [Text.numeral?_toDigits (by decide) (by decide), Option.map_some, UInt32.ofNat_toNat]

theorem exists_takes_lockFileEx (file : Handle .win32) (flags : UInt32) (offset length : UInt64)
    (result : Outcome .win32) : ∃ text rest,
    (line (lockFileEx file flags offset length result)).toList
        = numberText "TRACE LockFileEx(handle=" file.raw ',' ++ text ++ rest ∧
      lockFileExReader.Takes (numberText "TRACE LockFileEx(handle=" file.raw ',' ++ text)
        ⟨.win32, lockFileEx file flags offset length result⟩ := by
  obtain ⟨text, rest, htext, hresult⟩ := exists_takes_done result
  refine ⟨(" flags=0x".toList ++ (Nat.toDigits 16 flags.toNat ++ [',']))
    ++ (numberText " offset=" offset.toNat ',' ++ (numberText " len=" length.toNat ')'
    ++ (" -> ".toList ++ (text ++ [])))), rest, ?_, ?_⟩
  · delta line
    simp [htext, numberText, Text.hexadecimal]
  · apply Takes.bind (takes_numberField _ (by decide) (by decide) (Handle.ofRaw_raw file))
    apply Takes.bind (takes_flags flags)
    apply Takes.bind (takes_extentField _ (by decide) (by decide) offset)
    apply Takes.bind (takes_extentField _ (by decide) (by decide) length)
    exact Takes.bind (takes_skip _) (Takes.bind hresult (takes_pure _))

theorem exists_takes_unlockFileEx (file : Handle .win32) (offset length : UInt64)
    (result : Outcome .win32) : ∃ text rest,
    (line (unlockFileEx file offset length result)).toList
        = numberText "TRACE UnlockFileEx(handle=" file.raw ',' ++ text ++ rest ∧
      unlockFileExReader.Takes (numberText "TRACE UnlockFileEx(handle=" file.raw ',' ++ text)
        ⟨.win32, unlockFileEx file offset length result⟩ := by
  obtain ⟨text, rest, htext, hresult⟩ := exists_takes_done result
  refine ⟨numberText " offset=" offset.toNat ',' ++ (numberText " len=" length.toNat ')'
    ++ (" -> ".toList ++ (text ++ []))), rest, ?_, ?_⟩
  · delta line
    simp [htext, numberText]
  · apply Takes.bind (takes_numberField _ (by decide) (by decide) (Handle.ofRaw_raw file))
    apply Takes.bind (takes_extentField _ (by decide) (by decide) offset)
    apply Takes.bind (takes_extentField _ (by decide) (by decide) length)
    exact Takes.bind (takes_skip _) (Takes.bind hresult (takes_pure _))

theorem refuses_of_label {m : Reader α} {label : String} (h : m.Refuses label.toList) (i : Int)
    (mark : Char) (text : List Char) : m.Refuses (numberText label i mark ++ text) :=
  (h.append (decimalChars i ++ [mark])).append text

theorem fcntlReader_refuses {label : String}
    (h : ∀ rest, ¬ "TRACE fcntl(fd=".toList <+: label.toList ++ rest) :
    fcntlReader.Refuses label.toList :=
  (refuses_field h).bind

theorem lockFileExReader_refuses {label : String}
    (h : ∀ rest, ¬ "TRACE LockFileEx(handle=".toList <+: label.toList ++ rest) :
    lockFileExReader.Refuses label.toList :=
  (refuses_field h).bind

theorem exists_lineReader_line (r : TraceRecord p) :
    ∃ rest, lineReader.run r.line.toList = some (⟨p, r⟩, rest) := by
  cases r with
  | fcntl fd cmd type start len result =>
    obtain ⟨text, rest, htext, htakes⟩ := exists_takes_fcntl fd cmd type start len result
    refine ⟨rest, ?_⟩
    rw [htext]
    exact htakes.orElse rest
  | lockFileEx file flags offset length result =>
    obtain ⟨text, rest, htext, htakes⟩ := exists_takes_lockFileEx file flags offset length result
    refine ⟨rest, ?_⟩
    rw [htext]
    exact (Refuses.orElse (refuses_of_label (fcntlReader_refuses (by simp)) _ _ _)
      htakes.orElse) rest
  | unlockFileEx file offset length result =>
    obtain ⟨text, rest, htext, htakes⟩ := exists_takes_unlockFileEx file offset length result
    refine ⟨rest, ?_⟩
    rw [htext]
    exact (Refuses.orElse (refuses_of_label (fcntlReader_refuses (by simp)) _ _ _)
      (Refuses.orElse (refuses_of_label (lockFileExReader_refuses (by simp)) _ _ _) htakes)) rest

/-- The reader accepts the lines of records and nothing else. -/
theorem ofLine?_eq_some_iff {text : String} {r : (p : Platform) × TraceRecord p} :
    ofLine? text = some r ↔ r.2.line = text := by
  constructor
  · intro h
    unfold ofLine? at h
    rcases Option.bind_eq_some_iff.mp h with ⟨⟨r', rest⟩, -, hread⟩
    dsimp only at hread
    split at hread
    · next hline => cases hread; exact hline
    · cases hread
  · rintro rfl
    obtain ⟨rest, hread⟩ := exists_lineReader_line r.2
    unfold ofLine?
    rw [hread, Option.bind_some]
    exact if_pos rfl

example : ofLine? ("TRACE fcntl(fd=3, cmd=6, type=1, start=-5, len=100) -> Err(Error \x7b code: 11, "
      ++ "kind: WouldBlock, message: \"Resource temporarily unavailable\" \x7d)")
    = some ⟨.posix, fcntl (.descriptor 3) 6 1 (-5) 100 (.error ⟨11⟩)⟩ := by
  rw [ofLine?_eq_some_iff]
  decide +kernel

theorem line_inj {r r' : (p : Platform) × TraceRecord p} : r.2.line = r'.2.line ↔ r = r' := by
  constructor
  · intro h
    have hread := ofLine?_eq_some_iff.mpr h
    rw [ofLine?_eq_some_iff.mpr rfl] at hread
    exact (Option.some.inj hread).symm
  · rintro rfl
    rfl

end FileLocks.TraceRecord
