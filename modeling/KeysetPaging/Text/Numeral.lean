/-!
# Decimal numerals

Readers of decimal numerals, with and without a sign, and of those that fit a machine word. Leading
zeros are allowed and nothing but ASCII digits counts as a digit. Reading back what `Nat.repr` and
`Int.repr` write gives the number.
-/

namespace KeysetPaging.Text.Numeral

/-- One or more ASCII digits. -/
def digits? (text : List Char) : Option Nat :=
  if !text.isEmpty && text.all Char.isDigit then some (Nat.ofDigitChars 10 text 0) else none

/-- Digits behind an optional plus sign. -/
def unsigned? : List Char → Option Nat
  | '+' :: rest => digits? rest
  | text => digits? text

/-- Digits behind an optional plus or minus sign. -/
def signed? : List Char → Option Int
  | '-' :: rest => (digits? rest).map fun magnitude => -(magnitude : Int)
  | '+' :: rest => (digits? rest).map fun magnitude => (magnitude : Int)
  | text => (digits? text).map fun magnitude => (magnitude : Int)

/-- The decimal text of an integer, with a minus sign if it is negative. -/
def integerText (number : Int) : List Char :=
  if number < 0 then '-' :: Nat.toDigits 10 number.natAbs else Nat.toDigits 10 number.natAbs

/-- A number that fits 32 bits without a sign. -/
def word32? (number : Int) : Option UInt32 :=
  if 0 ≤ number ∧ number < 4294967296 then some (UInt32.ofNat number.toNat) else none

/-- A number that fits 64 bits without a sign. -/
def word64? (number : Int) : Option UInt64 :=
  if 0 ≤ number ∧ number < 18446744073709551616 then some (UInt64.ofNat number.toNat) else none

/-- A number that fits 64 bits in two's complement. -/
def signed64? (number : Int) : Option Int64 :=
  if -9223372036854775808 ≤ number ∧ number < 9223372036854775808 then some (Int64.ofInt number)
  else none

theorem digits?_toDigits (number : Nat) : digits? (Nat.toDigits 10 number) = some number := by
  have nonempty : (Nat.toDigits 10 number).isEmpty = false := by
    simp [List.isEmpty_eq_false_iff]
  have digits : (Nat.toDigits 10 number).all Char.isDigit = true :=
    List.all_eq_true.mpr fun c member => Nat.isDigit_of_mem_toDigits (by decide) (by decide) member
  simp [digits?, nonempty, digits, Nat.ofDigitChars_ten_toDigits]

theorem digits?_eq_some_iff {text : List Char} {number : Nat} :
    digits? text = some number ↔
      text ≠ [] ∧ (∀ c ∈ text, c.isDigit = true) ∧ Nat.ofDigitChars 10 text 0 = number := by
  unfold digits?
  cases text with
  | nil => simp
  | cons c rest => by_cases digits : (c :: rest).all Char.isDigit <;> simp_all

theorem unsigned?_of_digits {text : List Char} (digits : ∀ c ∈ text, c.isDigit = true) :
    unsigned? text = digits? text := by
  cases text with
  | nil => rfl
  | cons c rest =>
      have plain : c ≠ '+' := by
        intro sign
        have := digits c List.mem_cons_self
        rw [sign] at this
        exact absurd this (by decide)
      unfold unsigned?
      split
      · simp_all
      · rfl

theorem unsigned?_toDigits (number : Nat) : unsigned? (Nat.toDigits 10 number) = some number := by
  rw [unsigned?_of_digits, digits?_toDigits]
  intro c member
  exact Nat.isDigit_of_mem_toDigits (by decide) (by decide) member

theorem word32?_toNat (word : UInt32) : word32? word.toNat = some word := by
  have bound : (word.toNat : Int) < 4294967296 := by
    have := word.toNat_lt
    omega
  simp [word32?, bound]

theorem word32?_eq_some_iff {number : Int} {word : UInt32} :
    word32? number = some word ↔ number = word.toNat := by
  constructor
  · intro read
    unfold word32? at read
    split at read
    · rename_i range
      simp only [Option.some.injEq] at read
      subst read
      simp only [UInt32.toNat_ofNat']
      omega
    · simp at read
  · intro same
    subst same
    exact word32?_toNat word

theorem word64?_toNat (word : UInt64) : word64? word.toNat = some word := by
  have bound : (word.toNat : Int) < 18446744073709551616 := by
    have := word.toNat_lt
    omega
  simp [word64?, bound]

theorem signed64?_toInt (word : Int64) : signed64? word.toInt = some word := by
  have low := word.le_toInt
  have high := word.toInt_lt
  unfold signed64?
  rw [if_pos]
  · simp
  · constructor <;> simpa using by assumption

end KeysetPaging.Text.Numeral
