/-
  FileLocks/Proofs/Texts/Messages.lean
  ====================================
  **Which failures have a message of their own.**

  Two tables speak of a code: one says what it means for a lock, the other how it is
  worded.  On POSIX systems every code that has a meaning has a wording.  On Windows two
  codes have a meaning and no wording, so that a failure can be recognised and its message
  say that it is unknown (`message_unknown_iff_of_recognised`).

  A POSIX message is the C library's text for a known code and one fixed text for all
  others; `Errno.message_cases` lists the cases, and the fixed texts belong to no known
  code.
-/
import FileLocks.Failure.Basic
import FileLocks.NameTable

namespace FileLocks

/-! ### POSIX systems -/

namespace Errno

theorem ascending : table.Pairwise fun a b => a.code < b.code := by
  decide +kernel

theorem find?_eq_some_iff {code : Int32} {e : Entry} :
    find? code = some e ↔ e ∈ table ∧ e.code = code := by
  constructor
  · intro h
    unfold find? at h
    have hcode := List.find?_some h
    exact ⟨List.mem_of_find?_eq_some h, beq_iff_eq.mp hcode⟩
  · rintro ⟨hmem, rfl⟩
    obtain ⟨front, back, htable⟩ := List.append_of_mem hmem
    have hlower : ∀ a ∈ front, a.code < e.code := by
      have hascending := ascending
      rw [htable, List.pairwise_append] at hascending
      intro a ha
      exact hascending.2.2 a ha e List.mem_cons_self
    refine List.find?_eq_some_iff_append.mpr ⟨beq_self_eq_true e.code, front, back, htable, ?_⟩
    intro a ha
    simp [Int32.ne_of_lt (hlower a ha)]

theorem find?_eq_none_iff {code : Int32} : find? code = none ↔ ∀ e ∈ table, e.code ≠ code := by
  simp only [find?, List.find?_eq_none, beq_iff_eq, ne_eq]

/-- A text that starts with certain words has their bytes in front. -/
theorem take_bytes_of_starts {words text : String} (h : words.toList <+: text.toList) :
    text.toByteArray.data.toList.take words.toByteArray.data.toList.length
      = words.toByteArray.data.toList := by
  obtain ⟨rest, hrest⟩ := h
  have htext : text = words ++ String.ofList rest := by
    rw [← String.ofList_toList (s := text), ← hrest, String.ofList_append, String.ofList_toList]
  subst htext
  simp

/-- Known codes are positive, and their texts cannot be taken for those of other codes.  The
    bytes are compared since the kernel is slow to find the characters of a text. -/
theorem distinct_of_mem_table {e : Entry} (h : e ∈ table) :
    0 < e.code ∧ e.text ≠ "Success" ∧ ¬ unknownText.toList <+: e.text.toList := by
  have hbytes : ∀ e ∈ table, 0 < e.code ∧ e.text ≠ "Success" ∧
      e.text.toByteArray.data.toList.take unknownText.toByteArray.data.toList.length
        ≠ unknownText.toByteArray.data.toList := by
    decide +kernel
  obtain ⟨hpos, hsuccess, hunknown⟩ := hbytes e h
  exact ⟨hpos, hsuccess, mt take_bytes_of_starts hunknown⟩

theorem message_of_pos {code : Int32} (h : 0 < code) :
    message code = if unknownText.toList.isPrefixOf (systemText code).toList then unknownText
      else systemText code := by
  have hneg : ¬ code < 0 := Int32.lt_asymm h
  have hzero : code ≠ 0 := (Int32.ne_of_lt h).symm
  simp only [message, if_neg hneg, if_neg hzero]

/-- The text for an unknown code starts with the words that are kept of it. -/
theorem message_of_find?_eq_none {code : Int32} (pos : 0 < code) (h : find? code = none) :
    message code = unknownText := by
  rw [message_of_pos pos, if_pos]
  simp only [systemText, h, String.toList_append, List.isPrefixOf_iff_prefix, List.append_assoc]
  exact List.prefix_append _ _

theorem message_of_mem_table {e : Entry} (h : e ∈ table) : message e.code = e.text := by
  obtain ⟨hpos, -, hother⟩ := distinct_of_mem_table h
  have htext : systemText e.code = e.text := by
    simp only [systemText, find?_eq_some_iff.mpr ⟨h, rfl⟩]
  rw [message_of_pos hpos, htext, if_neg]
  rw [List.isPrefixOf_iff_prefix]
  exact hother

/-- What a message is: the fixed text for codes that the C library is not asked about, or
    does not know, and otherwise its text. -/
theorem message_cases (code : Int32) :
    (code = 0 ∧ message code = "Success") ∨
    ((code < 0 ∨ 0 < code ∧ ∀ e ∈ table, e.code ≠ code) ∧ message code = unknownText) ∨
    ∃ e ∈ table, e.code = code ∧ message code = e.text := by
  by_cases hneg : code < 0
  · refine Or.inr (Or.inl ⟨Or.inl hneg, ?_⟩)
    rw [message, if_pos hneg]
  by_cases hzero : code = 0
  · subst hzero
    exact Or.inl ⟨rfl, rfl⟩
  -- only now is the C library asked
  have hpos : 0 < code := Int32.lt_of_le_of_ne (Int32.not_lt.mp hneg) (Ne.symm hzero)
  rcases hfind : find? code with _ | e
  · exact Or.inr (Or.inl ⟨Or.inr ⟨hpos, find?_eq_none_iff.mp hfind⟩,
      message_of_find?_eq_none hpos hfind⟩)
  · obtain ⟨hmem, rfl⟩ := find?_eq_some_iff.mp hfind
    exact Or.inr (Or.inr ⟨e, hmem, rfl, message_of_mem_table hmem⟩)

theorem message_eq_success_iff {code : Int32} : message code = "Success" ↔ code = 0 := by
  constructor
  · intro hmessage
    rcases message_cases code with ⟨hzero, -⟩ | ⟨-, hunknown⟩ | ⟨e, hmem, -, htext⟩
    · exact hzero
    · rw [hunknown] at hmessage
      exact absurd hmessage (by decide)
    · exact absurd (htext.symm.trans hmessage) (distinct_of_mem_table hmem).2.1
  · rintro rfl
    rfl

theorem message_eq_unknownText_iff {code : Int32} :
    message code = unknownText ↔ code < 0 ∨ 0 < code ∧ ∀ e ∈ table, e.code ≠ code := by
  constructor
  · intro hmessage
    rcases message_cases code with ⟨-, hsuccess⟩ | ⟨hcode, -⟩ | ⟨e, hmem, -, htext⟩
    · rw [hsuccess] at hmessage
      exact absurd hmessage (by decide)
    · exact hcode
    · obtain ⟨-, -, hother⟩ := distinct_of_mem_table hmem
      rw [← htext, hmessage] at hother
      exact absurd (List.prefix_refl _) hother
  · intro hcode
    rcases message_cases code with ⟨rfl, -⟩ | ⟨-, hunknown⟩ | ⟨e, hmem, rfl, -⟩
    · rcases hcode with hneg | ⟨hpos, -⟩
      · exact absurd hneg (by decide)
      · exact absurd hpos (by decide)
    · exact hunknown
    · have hpos := (distinct_of_mem_table hmem).1
      rcases hcode with hneg | ⟨-, hother⟩
      · exact absurd hneg (Int32.lt_asymm hpos)
      · exact absurd rfl (hother e hmem)

end Errno

/-! ### Recognised failures -/

namespace Failure

variable {p : Platform}

/-- The codes that a platform has words for, with the words. -/
def wordings : Platform → List (Int32 × String)
  | .posix => Errno.table.map fun e => (e.code, e.text)
  | .win32 => Win32Error.texts

theorem message_of_mem_wordings {f : Failure p} {text : String}
    (h : (f.code, text) ∈ wordings p) : f.message = text ∧ text ≠ "Unknown error" := by
  obtain ⟨code⟩ := f
  cases p with
  | posix =>
    obtain ⟨e, hmem, hentry⟩ := List.mem_map.mp h
    cases hentry
    refine ⟨Errno.message_of_mem_table hmem, ?_⟩
    intro hunknown
    have hother := (Errno.distinct_of_mem_table hmem).2.2
    rw [hunknown] at hother
    exact hother (List.prefix_refl _)
  | win32 =>
    have htexts : ∀ entry ∈ Win32Error.texts,
        Win32Error.message entry.1 = entry.2 ∧ entry.2 ≠ "Unknown error" := by
      decide +kernel
    exact htexts _ h

theorem exists_mem_kinds {f : Failure p} (recognised : f.kind ≠ .other) :
    ∃ k, (f.code, k) ∈ kinds p := by
  unfold kind at recognised
  rcases hlookup : (kinds p).lookup f.code with _ | k
  · rw [hlookup] at recognised
    exact absurd rfl recognised
  · exact ⟨k, mem_of_lookup_eq_some hlookup⟩

/-- The code has a meaning on Windows and no words. -/
def Unworded (p : Platform) (code : Int32) : Prop :=
  p = .win32 ∧ (code = Win32Error.sharingBufferExceeded ∨ code = Win32Error.possibleDeadlock)

instance (p : Platform) (code : Int32) : Decidable (Unworded p code) := by
  unfold Unworded
  infer_instance

theorem worded_of_mem_kinds : ∀ p, ∀ entry ∈ kinds p,
    entry.1 ∈ (wordings p).map Prod.fst ∨ Unworded p entry.1
  | .posix => by decide +kernel
  | .win32 => by decide +kernel

/-- **A recognised failure is described, but for two.**  If the kind of a failure says what it
    means for a lock, then its message is the platform's text for its code, and not the one
    for unknown codes.  The exceptions are the Windows codes 36, for a full table of shared
    files, and 1131, for a possible deadlock: these have a kind and no text. -/
theorem message_unknown_iff_of_recognised (f : Failure p) (recognised : f.kind ≠ .other) :
    (f.message = "Unknown error" ↔ Unworded p f.code) ∧
      (¬ Unworded p f.code → (f.code, f.message) ∈ wordings p) := by
  have hunworded : Unworded p f.code → f.message = "Unknown error" := by
    obtain ⟨code⟩ := f
    rintro ⟨rfl, rfl | rfl⟩ <;> decide
  obtain ⟨k, hkind⟩ := exists_mem_kinds recognised
  rcases worded_of_mem_kinds p _ hkind with hworded | hgap
  · obtain ⟨⟨_, text⟩, hmem, rfl⟩ := List.mem_map.mp hworded
    obtain ⟨hmessage, hknown⟩ := message_of_mem_wordings hmem
    rw [hmessage]
    refine ⟨iff_of_false hknown ?_, fun _ => hmem⟩
    intro hgap
    exact hknown (hmessage.symm.trans (hunworded hgap))
  · exact ⟨iff_of_true (hunworded hgap) hgap, fun hother => absurd hgap hother⟩

/-- A conflict is described on both platforms; a full table of shared files is not. -/
theorem conflict_described :
    let again : Failure .posix := ⟨Errno.EAGAIN⟩
    let violation : Failure .win32 := ⟨Win32Error.lockViolation⟩
    let full : Failure .win32 := ⟨Win32Error.sharingBufferExceeded⟩
    again.kind = .wouldBlock ∧ (again.code, again.message) ∈ wordings .posix ∧
      violation.kind = .wouldBlock ∧ violation.message ≠ "Unknown error" ∧
      full.kind = .unavailable ∧ full.message = "Unknown error" := by
  intro again violation full
  have hagain : again.kind = .wouldBlock := by decide
  have hviolation : violation.kind = .wouldBlock := by decide
  have hfull : full.kind = .unavailable := by decide
  obtain ⟨-, hagainWords⟩ :=
    message_unknown_iff_of_recognised again (by rw [hagain]; decide)
  obtain ⟨hviolationWords, -⟩ :=
    message_unknown_iff_of_recognised violation (by rw [hviolation]; decide)
  obtain ⟨hfullWords, -⟩ := message_unknown_iff_of_recognised full (by rw [hfull]; decide)
  exact ⟨hagain, hagainWords (by decide), hviolation, mt hviolationWords.mp (by decide), hfull,
    hfullWords.mpr (by decide)⟩

/-- A kind of its own does not bring a failure a message of its own. -/
theorem not_described_of_recognised :
    ¬ ((⟨36⟩ : Failure .win32).kind ≠ .other →
        (⟨36⟩ : Failure .win32).message ≠ "Unknown error") ∧
      ¬ ((⟨1131⟩ : Failure .win32).kind ≠ .other →
        (⟨1131⟩ : Failure .win32).message ≠ "Unknown error") := by
  decide

end Failure

end FileLocks
