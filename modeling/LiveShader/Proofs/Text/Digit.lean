import LiveShader.Text.Digit

/-!
# Numbers in decimals

A number that is written in decimals is read back, and only digits that write the number of a
line are read as one (`lineNumber?_eq_some_iff`).
-/

namespace LiveShader.Text

/-- The digits that have a value are among the digits of all scripts. -/
theorem isDecimalDigit_of_isDigit {digit : Char} (isDigit : digit.isDigit = true) :
    isDecimalDigit digit = true := by
  simp only [Char.isDigit, Bool.and_eq_true, decide_eq_true_eq, ge_iff_le, UInt32.le_iff_toNat_le]
    at isDigit
  have lower : 48 ≤ digit.toNat := isDigit.1
  have upper : digit.toNat ≤ 57 := isDigit.2
  refine List.any_eq_true.2 ⟨48, by decide, ?_⟩
  simp only [Bool.and_eq_true, decide_eq_true_eq]
  omega

/-- A number is written in digits only. -/
theorem isDigit_of_mem_toDigits {number : Nat} :
    ∀ digit ∈ Nat.toDigits 10 number, digit.isDigit = true :=
  fun _ member => Nat.isDigit_of_mem_toDigits (by decide) (by decide) member

/-- Digits have the value that the library gives them. -/
theorem decimalValue_eq (digits : List Char) :
    decimalValue digits = Nat.ofDigitChars 10 digits 0 := by
  simp only [decimalValue, Nat.ofDigitChars_eq_foldl, Nat.mul_comm]
  rfl

/-- Digits that write the number of a line: there are some, all are ASCII digits, and the number
has 32 bits. Zeros may lead. -/
structure WritesLine (digits : List Char) (number : Nat) : Prop where
  nonempty : digits ≠ []
  ascii : ∀ digit ∈ digits, digit.isDigit = true
  value : Nat.ofDigitChars 10 digits 0 = number
  small : number < UInt32.size

/-- Digits are read as a number exactly if they write it and it is small enough. -/
theorem lineNumber?_eq_some_iff {digits : List Char} {number : Nat} :
    lineNumber? digits = some number ↔ WritesLine digits number := by
  unfold lineNumber?
  rw [Option.ite_none_right_eq_some, decimalValue_eq, lineBound, List.all_eq_true,
    Option.some.injEq]
  constructor
  · rintro ⟨⟨nonempty, ascii, small⟩, rfl⟩
    exact ⟨nonempty, ascii, rfl, small⟩
  · rintro ⟨nonempty, ascii, rfl, small⟩
    exact ⟨⟨nonempty, ascii, small⟩, rfl⟩

/-- A number that is written in decimals is the number of a line, if it is small enough. -/
theorem writesLine_toDigits {number : Nat} (small : number < lineBound) :
    WritesLine (Nat.toDigits 10 number) number where
  nonempty := Nat.toDigits_ne_nil
  ascii := isDigit_of_mem_toDigits
  value := Nat.ofDigitChars_ten_toDigits
  small := small

end LiveShader.Text
