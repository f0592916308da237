/-
  FileLocks/Text/Decimal.lean
  ===========================
  **Whole numbers as text.**

  Decimal numerals carry a minus sign when they are negative and nothing when
  they are not; hexadecimal ones are written in lower case after `0x`.
-/

namespace FileLocks.Text

/-- The characters of a decimal numeral: a sign for negative numbers only, then
    the digits without leading zeros. -/
def decimalChars : Int → List Char
  | .ofNat n => Nat.toDigits 10 n
  | .negSucc n => '-' :: Nat.toDigits 10 (n + 1)

/-- A whole number in decimal. -/
def decimal (i : Int) : String :=
  String.ofList (decimalChars i)

/-- A natural number in lower-case hexadecimal, after `0x`. -/
def hexadecimal (n : Nat) : String :=
  "0x" ++ String.ofList (Nat.toDigits 16 n)

@[simp] theorem toList_decimal (i : Int) : (decimal i).toList = decimalChars i :=
  String.toList_ofList

end FileLocks.Text
