/-
  FileLocks/Proofs/Texts/FailureTexts.lean
  ========================================
  **Reading a failure back.**

  Many codes share a message, but every text of a failure shows the code beside it.  Each
  of the three texts is read by the code alone, from the back where the message comes
  first, and whatever the message is (`exists_run_displayReader`).  A text is accepted for a
  failure just if it is the one that is written for it, so that equal texts are texts of
  one failure.
-/
import FileLocks.Proofs.Texts.Messages
import FileLocks.Proofs.Texts.TraceLines

namespace FileLocks.Failure

open Text (Reader decimal? decimalChars)
open Text.Reader
open TraceRecord (numberField numberText takes_numberField)

variable {p : Platform}

/-! ### Readers -/

def ofNumber (i : Int) : Failure p :=
  ⟨Int32.ofInt i⟩

theorem ofNumber_code (f : Failure p) : ofNumber f.code.toInt = f := by
  rw [ofNumber, Int32.ofInt_toInt]

/-- The code in parentheses at the end of a text that is read from the back. -/
def displayReader : Reader (Failure p) :=
  field ")" ' ' fun cs => (decimal? cs.reverse).map ofNumber

/-- The code after what a record starts with, the rest of the record being left. -/
def recordReader (start : String) : Reader (Failure p) :=
  numberField start ',' ofNumber

/-- What was read from a text, if the text is what is written for it. -/
def accept (write : Failure p → String) (text : String)
    (read : Option (Failure p × List Char)) : Option (Failure p) :=
  (read.map Prod.fst).filter fun f => write f == text

def ofDisplay? (text : String) : Option (Failure p) :=
  accept display text (displayReader.run text.toList.reverse)

def ofInspect? (text : String) : Option (Failure p) :=
  accept inspect text ((recordReader "Error \x7b code: ").run text.toList)

def ofInspectIndented? (text : String) : Option (Failure p) :=
  accept inspectIndented text ((recordReader "Error \x7b\n    code: ").run text.toList)

/-! ### Texts that are read -/

theorem accept_eq_some_iff {write : Failure p → String} {text : String}
    {read : Option (Failure p × List Char)} {f : Failure p}
    (h : write f = text → ∃ rest, read = some (f, rest)) :
    accept write text read = some f ↔ write f = text := by
  rw [accept, Option.filter_eq_some_iff, beq_iff_eq]
  constructor
  · exact And.right
  · intro htext
    obtain ⟨rest, hread⟩ := h htext
    rw [hread]
    exact ⟨rfl, htext⟩

/-- A code at the end of a text is found after any message. -/
theorem exists_run_displayReader (message : String) (f : Failure p) : ∃ rest,
    displayReader.run (message ++ " (code " ++ Text.decimal f.code.toInt ++ ")").toList.reverse
      = some (f, rest) := by
  have htakes : (displayReader : Reader (Failure p)).Takes
      (")".toList ++ ((decimalChars f.code.toInt).reverse ++ [' '])) f := by
    apply takes_field
    · rw [List.mem_reverse]
      exact Text.not_mem_decimalChars (by decide) (by decide) _
    · rw [List.reverse_reverse, Text.decimal?_decimalChars, Option.map_some, ofNumber_code]
  refine ⟨("(code".toList.reverse ++ (' ' :: message.toList.reverse)), ?_⟩
  rw [← htakes]
  congr 1
  simp

theorem exists_run_recordReader {start text : String} {f : Failure p}
    (h : ∃ rest, text.toList = numberText start f.code.toInt ',' ++ rest) :
    ∃ rest, (recordReader start).run text.toList = some (f, rest) := by
  obtain ⟨rest, htext⟩ := h
  rw [htext]
  exact ⟨rest, takes_numberField start (by decide) (by decide) (ofNumber_code f) rest⟩

theorem toList_inspectIndented (f : Failure p) : ∃ rest,
    f.inspectIndented.toList = numberText "Error \x7b\n    code: " f.code.toInt ',' ++ rest := by
  refine ⟨("\n    kind: " ++ f.kind.name ++ ",\n    message: " ++ Text.quoted f.message
    ++ ",\n\x7d").toList, ?_⟩
  simp [numberText, inspectIndented, toRecord, Text.Record.indented, Text.Field.text]

theorem ofDisplay?_eq_some_iff {text : String} {f : Failure p} :
    ofDisplay? text = some f ↔ f.display = text := by
  refine accept_eq_some_iff ?_
  rintro rfl
  exact exists_run_displayReader f.message f

theorem ofInspect?_eq_some_iff {text : String} {f : Failure p} :
    ofInspect? text = some f ↔ f.inspect = text := by
  refine accept_eq_some_iff ?_
  rintro rfl
  exact exists_run_recordReader (TraceRecord.toList_inspect f)

theorem ofInspectIndented?_eq_some_iff {text : String} {f : Failure p} :
    ofInspectIndented? text = some f ↔ f.inspectIndented = text := by
  refine accept_eq_some_iff ?_
  rintro rfl
  exact exists_run_recordReader (toList_inspectIndented f)

/-- What can be read back is written for one code alone. -/
theorem write_eq_iff_code_eq {write : Failure p → String} {read? : String → Option (Failure p)}
    (h : ∀ {text f}, read? text = some f ↔ write f = text) {f g : Failure p} :
    write f = write g ↔ f.code = g.code := by
  constructor
  · intro htexts
    have hf : read? (write g) = some f := h.mpr htexts
    have hg : read? (write g) = some g := h.mpr rfl
    exact congrArg code (Option.some.inj (hf.symm.trans hg))
  · intro hcodes
    obtain ⟨code⟩ := f
    subst hcodes
    rfl

/-- **Texts keep the code.**  On either platform each of the three texts of a failure is read
    back, and the reader finds this failure in no other text, so that the texts of two
    failures are equal just if their codes are.

    Messages do not keep it.  On POSIX systems the message is that of success for the code
    zero alone, and one and the same for all codes that are negative or not known; a known
    code has the C library's text for it. -/
theorem texts_keep_codes :
    (∀ (p : Platform) (f : Failure p) (text : String),
      (ofDisplay? text = some f ↔ f.display = text) ∧
      (ofInspect? text = some f ↔ f.inspect = text) ∧
      (ofInspectIndented? text = some f ↔ f.inspectIndented = text)) ∧
    (∀ (p : Platform) (f g : Failure p),
      (f.display = g.display ↔ f.code = g.code) ∧
      (f.inspect = g.inspect ↔ f.code = g.code) ∧
      (f.inspectIndented = g.inspectIndented ↔ f.code = g.code)) ∧
    ∀ f : Failure .posix,
      (f.message = "Success" ↔ f.code = 0) ∧
      (f.message = "Unknown error" ↔
        f.code < 0 ∨ 0 < f.code ∧ ∀ e ∈ Errno.table, e.code ≠ f.code) ∧
      ∀ e ∈ Errno.table, e.code = f.code → f.message = e.text := by
  refine ⟨?reads, ?separates, ?messages⟩
  case reads =>
    intro p f text
    exact ⟨ofDisplay?_eq_some_iff, ofInspect?_eq_some_iff, ofInspectIndented?_eq_some_iff⟩
  case separates =>
    intro p f g
    exact ⟨write_eq_iff_code_eq ofDisplay?_eq_some_iff, write_eq_iff_code_eq ofInspect?_eq_some_iff,
      write_eq_iff_code_eq ofInspectIndented?_eq_some_iff⟩
  case messages =>
    rintro ⟨code⟩
    refine ⟨Errno.message_eq_success_iff, Errno.message_eq_unknownText_iff, ?_⟩
    rintro e hmem rfl
    exact Errno.message_of_mem_table hmem

/-- Two codes that share a message, the least of all and one that is not known. -/
example :
    let f : Failure .posix := ⟨-2147483648⟩
    let g : Failure .posix := ⟨999⟩
    f.message = g.message ∧ f.display ≠ g.display := by
  decide +kernel

end FileLocks.Failure
