/-
  FileLocks/Proofs/Texts/Reading.lean
  ===================================
  **Reading texts back.**

  A reader takes a value off the front of a text and leaves the rest, or refuses the
  text.  `Reader.Takes` says that a reader takes a certain text for a certain value,
  whatever comes after it; what two readers take, they take one after the other
  (`Reader.Takes.bind`).

  Numbers come back from the texts in which they are written: `numeral?_toDigits` says
  so for the bases up to sixteen, and `decimal?_decimalChars` with the sign.
-/
import FileLocks.Text.Decimal

namespace FileLocks.Text

/-! ### Numbers -/

/-- The digit that a character writes in a base. -/
def digit? (base : Nat) (c : Char) : Option Nat :=
  (List.range base).find? fun d => d.digitChar == c

/-- The number that is written with certain digits in a base. -/
def numeral? (base : Nat) (cs : List Char) : Option Nat :=
  cs.foldlM (fun n c => (digit? base c).map fun d => base * n + d) 0

/-- The whole number that a text writes in decimal. -/
def decimal? (cs : List Char) : Option Int :=
  match numeral? 10 cs, cs with
  | some n, _ => some n
  | none, '-' :: digits => (numeral? 10 digits).map fun n => -n
  | none, _ => none

theorem digit?_digitChar {base d : Nat} (hbase : base ≤ 16) (hd : d < base) :
    digit? base d.digitChar = some d := by
  have hall : ∀ base ≤ 16, ∀ d < base, digit? base d.digitChar = some d := by decide
  exact hall base hbase d hd

theorem numeral?_append_singleton (base : Nat) (cs : List Char) (c : Char) :
    numeral? base (cs ++ [c])
      = (numeral? base cs).bind fun n => (digit? base c).map fun d => base * n + d := by
  simp only [numeral?, List.foldlM_append, List.foldlM_cons, List.foldlM_nil, bind_pure,
    Option.bind_eq_bind]

theorem numeral?_toDigits {base : Nat} (hone : 1 < base) (hbase : base ≤ 16) (n : Nat) :
    numeral? base (Nat.toDigits base n) = some n := by
  induction n using Nat.strongRecOn with
  | ind n ih =>
    by_cases hn : n < base
    · rw [Nat.toDigits_of_lt_base hn, ← List.nil_append [n.digitChar],
        numeral?_append_singleton, digit?_digitChar hbase hn]
      simp [numeral?]
    · have hle : base ≤ n := Nat.le_of_not_lt hn
      have hdigit : n % base < base := Nat.mod_lt n (Nat.lt_trans Nat.zero_lt_one hone)
      have hquotient : n / base < n :=
        Nat.div_lt_self (Nat.lt_of_lt_of_le (Nat.lt_trans Nat.zero_lt_one hone) hle) hone
      rw [Nat.toDigits_of_base_le hone hle, numeral?_append_singleton, ih _ hquotient,
        digit?_digitChar hbase hdigit]
      simp only [Option.bind_some, Option.map_some, Nat.div_add_mod]

theorem digit?_ne_none_of_mem {base n : Nat} {cs : List Char} (h : numeral? base cs = some n)
    {c : Char} (hc : c ∈ cs) : digit? base c ≠ none := by
  intro hnone
  obtain ⟨front, back, rfl⟩ := List.append_of_mem hc
  simp [numeral?, List.foldlM_append, hnone] at h

theorem not_mem_toDigits {base : Nat} (hone : 1 < base) (hbase : base ≤ 16) {mark : Char}
    (hmark : digit? base mark = none) (n : Nat) : mark ∉ Nat.toDigits base n := by
  intro hmem
  exact digit?_ne_none_of_mem (numeral?_toDigits hone hbase n) hmem hmark

theorem decimal?_decimalChars (i : Int) : decimal? (decimalChars i) = some i := by
  cases i with
  | ofNat n =>
    simp only [decimalChars, decimal?, numeral?_toDigits (by decide : 1 < 10) (by decide)]
    rfl
  | negSucc n =>
    -- the sign is no digit, so the text as a whole is no numeral
    have hsign : numeral? 10 ('-' :: Nat.toDigits 10 (n + 1)) = none := by
      cases h : numeral? 10 ('-' :: Nat.toDigits 10 (n + 1)) with
      | none => rfl
      | some m => exact absurd (by decide) (digit?_ne_none_of_mem h List.mem_cons_self)
    simp only [decimalChars, decimal?, hsign, numeral?_toDigits (by decide : 1 < 10) (by decide)]
    rfl

theorem not_mem_decimalChars {mark : Char} (hsign : mark ≠ '-') (hmark : digit? 10 mark = none)
    (i : Int) : mark ∉ decimalChars i := by
  have hdigits := fun n => not_mem_toDigits (by decide : 1 < 10) (by decide) hmark n
  cases i with
  | ofNat n => exact hdigits n
  | negSucc n =>
    rw [decimalChars, List.mem_cons, not_or]
    exact ⟨hsign, hdigits (n + 1)⟩

/-! ### Readers -/

/-- A reader takes a value off the front of a text, or refuses the text. -/
abbrev Reader (α : Type) : Type := StateT (List Char) Option α

namespace Reader

variable {α β : Type}

/-- Take a certain word. -/
def skip (word : String) : Reader Unit := fun cs =>
  if word.toList <+: cs then some ((), cs.drop word.toList.length) else none

/-- Take what comes before a mark, and the mark. -/
def upTo (mark : Char) : Reader (List Char) := fun cs =>
  let taken := cs.takeWhile fun c => c != mark
  if taken.length < cs.length then some (taken, cs.drop (taken.length + 1)) else none

/-- Take a value that stands between a label and a mark. -/
def field (label : String) (mark : Char) (value? : List Char → Option α) : Reader α := do
  skip label
  let text ← upTo mark
  value? text

/-- The reader takes a text for a value, whatever comes after it. -/
def Takes (m : Reader α) (text : List Char) (a : α) : Prop :=
  ∀ rest, m.run (text ++ rest) = some (a, rest)

/-- The reader refuses a text, whatever comes after it. -/
def Refuses (m : Reader α) (text : List Char) : Prop :=
  ∀ rest, m.run (text ++ rest) = none

variable {m m' : Reader α} {f : α → Reader β} {text text' : List Char} {a : α} {b : β}

theorem takes_pure (a : α) : Takes (pure a) [] a :=
  fun _ => rfl

theorem Takes.bind (h : m.Takes text a) (h' : (f a).Takes text' b) :
    (m >>= f).Takes (text ++ text') b := by
  intro rest
  rw [StateT.run_bind, List.append_assoc, h (text' ++ rest)]
  exact h' rest

theorem Takes.map {g : α → β} (h : m.Takes text a) : (g <$> m).Takes text (g a) := by
  intro rest
  rw [StateT.run_map, h rest]
  rfl

theorem Refuses.map {g : α → β} (h : m.Refuses text) : (g <$> m).Refuses text := by
  intro rest
  rw [StateT.run_map, h rest]
  rfl

theorem Refuses.bind (h : m.Refuses text) : (m >>= f).Refuses text := by
  intro rest
  rw [StateT.run_bind, h rest]
  rfl

theorem Takes.orElse (h : m.Takes text a) : (m <|> m').Takes text a := by
  intro rest
  show (m.run (text ++ rest) <|> m'.run (text ++ rest)) = _
  rw [h rest]
  rfl

theorem Refuses.orElse (h : m.Refuses text) (h' : m'.Takes text a) :
    (m <|> m').Takes text a := by
  intro rest
  show (m.run (text ++ rest) <|> m'.run (text ++ rest)) = _
  rw [h rest, h' rest]
  rfl

theorem Refuses.append (h : m.Refuses text) (text' : List Char) : m.Refuses (text ++ text') := by
  intro rest
  rw [List.append_assoc]
  exact h (text' ++ rest)

theorem takes_skip (word : String) : (skip word).Takes word.toList () := by
  intro rest
  show (if word.toList <+: word.toList ++ rest then _ else _) = _
  rw [if_pos (List.prefix_append word.toList rest), List.drop_left]

/-- A word is not taken where another one stands that differs from it early enough. -/
theorem refuses_skip {word : String} {text : List Char}
    (h : ∀ rest, ¬ word.toList <+: text ++ rest) : (skip word).Refuses text := by
  intro rest
  exact if_neg (h rest)

theorem takes_upTo {mark : Char} {text : List Char} (h : mark ∉ text) :
    (upTo mark).Takes (text ++ [mark]) text := by
  intro rest
  have hpass : ∀ c ∈ text, (c != mark) = true := by
    intro c hc
    rw [bne_iff_ne]
    rintro rfl
    exact h hc
  have htaken : (text ++ mark :: rest).takeWhile (fun c => c != mark) = text := by
    rw [List.takeWhile_append_of_pos hpass]
    simp
  rw [List.append_assoc, List.singleton_append]
  show (if ((text ++ mark :: rest).takeWhile fun c => c != mark).length < _ then _ else _) = _
  simp only [htaken]
  simp

theorem takes_field (label : String) {mark : Char} {value? : List Char → Option α}
    (hmark : mark ∉ text) (hvalue : value? text = some a) :
    (field label mark value?).Takes (label.toList ++ (text ++ [mark])) a := by
  refine (takes_skip label).bind ?_
  rw [← List.append_nil (text ++ [mark])]
  refine (takes_upTo hmark).bind ?_
  intro rest
  simp [hvalue]

theorem refuses_field {label : String} {mark : Char} {value? : List Char → Option α}
    (h : ∀ rest, ¬ label.toList <+: text ++ rest) : (field label mark value?).Refuses text :=
  (refuses_skip h).bind

end Reader

end FileLocks.Text
