import KeysetPaging.Text.Utf8
import KeysetPaging.Text.Numeral
import Mathlib.Data.List.Induction

/-!
# Decimal texts read back

The digits of a number and the text of an integer determine it, and the signed reader gives it back.
The digits of a number start with a zero only if the number is zero. The text of an integer of 64 bits
has at most twenty characters, all of them ASCII. The unsigned reader takes the digits of a number
behind any zeros and an optional plus sign, and nothing else.
-/

namespace KeysetPaging.Text.Numeral

theorem toDigits_inj {left right : Nat} (same : Nat.toDigits 10 left = Nat.toDigits 10 right) :
    left = right := by
  have read := digits?_toDigits left
  rw [same, digits?_toDigits] at read
  exact (Option.some.inj read).symm

theorem isDigit_of_mem_toDigits {number : Nat} {c : Char} (member : c ∈ Nat.toDigits 10 number) :
    c.isDigit = true :=
  Nat.isDigit_of_mem_toDigits (by decide) (by decide) member

/-- The digits of a number start with its first digit. -/
theorem exists_toDigits (number : Nat) :
    ∃ c rest, Nat.toDigits 10 number = c :: rest ∧ c.isDigit = true := by
  cases digits : Nat.toDigits 10 number with
  | nil => exact absurd digits Nat.toDigits_ne_nil
  | cons c rest => exact ⟨c, rest, rfl, isDigit_of_mem_toDigits (digits ▸ List.mem_cons_self)⟩

/-- No zero stands in front of the digits of a number. -/
theorem head?_toDigits_ne_zero {number : Nat} (positive : 0 < number) :
    (Nat.toDigits 10 number).head? ≠ some '0' := by
  induction number using Nat.strongRecOn with
  | ind number ih =>
      by_cases small : number < 10
      · have single : ∀ value < 10, 0 < value → some value.digitChar ≠ some '0' := by decide
        rw [Nat.toDigits_of_lt_base small]
        exact single number small positive
      · have front : 0 < number / 10 := by omega
        have last : number % 10 < 10 := Nat.mod_lt number (by decide)
        have split := Nat.toDigits_append_toDigits (by decide) front last
        rw [Nat.div_add_mod] at split
        obtain ⟨c, rest, shape, -⟩ := exists_toDigits (number / 10)
        have leading := ih (number / 10) (by omega) front
        rw [← split, shape]
        rwa [shape] at leading

/-- Text that starts with a digit has no sign. -/
theorem signed?_of_digits {text : List Char} (digits : ∀ c ∈ text, c.isDigit = true) :
    signed? text = (digits? text).map fun magnitude => (magnitude : Int) := by
  cases text with
  | nil => rfl
  | cons c rest =>
      have digit := digits c List.mem_cons_self
      unfold signed?
      split
      · rename_i sign
        rw [(List.cons.inj sign).1] at digit
        cases digit
      · rename_i sign
        rw [(List.cons.inj sign).1] at digit
        cases digit
      · rfl

theorem signed?_integerText (number : Int) : signed? (integerText number) = some number := by
  unfold integerText
  split
  · simp only [signed?, digits?_toDigits, Option.bind_eq_bind, Option.bind_some, Option.pure_def,
      Option.map_some, Option.some_inj]
    omega
  · rw [signed?_of_digits fun _ => isDigit_of_mem_toDigits, digits?_toDigits]
    simp only [Option.bind_eq_bind, Option.bind_some, Option.pure_def, Option.map_some,
      Option.some_inj]
    omega

theorem length_toDigits_le {number : Nat} (bound : number < 10000000000000000000) :
    (Nat.toDigits 10 number).length ≤ 19 :=
  (Nat.length_toDigits_le_iff (by decide) (by decide)).mpr bound

theorem length_integerText_le (number : Int64) : (integerText number.toInt).length ≤ 20 := by
  have low := number.le_toInt
  have high := number.toInt_lt
  have digits : (Nat.toDigits 10 number.toInt.natAbs).length ≤ 19 := by
    apply length_toDigits_le
    omega
  unfold integerText
  split
  · rw [List.length_cons]
    omega
  · omega

theorem toNat_lt_of_isDigit {c : Char} (digit : c.isDigit = true) : c.toNat < 128 :=
  Nat.lt_of_le_of_lt (Char.isDigit_iff_toNat.mp digit).2 (by decide)

theorem toNat_lt_of_mem_integerText {number : Int} {c : Char} (member : c ∈ integerText number) :
    c.toNat < 128 := by
  unfold integerText at member
  split at member
  · rcases List.mem_cons.mp member with rfl | member
    · decide
    · exact toNat_lt_of_isDigit (isDigit_of_mem_toDigits member)
  · exact toNat_lt_of_isDigit (isDigit_of_mem_toDigits member)

/-- The text of an integer of 64 bits has at most twenty bytes. -/
theorem utf8ByteSize_integerText_le (number : Int64) :
    (String.ofList (integerText number.toInt)).utf8ByteSize ≤ 20 := by
  rw [utf8ByteSize_ofList_of_ascii fun _ => toNat_lt_of_mem_integerText]
  exact length_integerText_le number

/-- The decimal text of a number has a byte for each digit. -/
theorem utf8ByteSize_repr (number : Nat) :
    number.repr.utf8ByteSize = (Nat.toDigits 10 number).length := by
  rw [← String.ofList_toList (s := number.repr), Nat.toList_repr,
    utf8ByteSize_ofList_of_ascii fun _ member =>
      toNat_lt_of_isDigit (isDigit_of_mem_toDigits member)]

/-- The decimal text of a page number has at most ten bytes. -/
theorem utf8ByteSize_repr_le (word : UInt32) : word.toNat.repr.utf8ByteSize ≤ 10 := by
  have bound := word.toNat_lt
  rw [utf8ByteSize_repr]
  exact (Nat.length_toDigits_le_iff (by decide) (by decide)).mpr (by omega)

/-- The spellings of a number: its digits behind any zeros, and an optional plus sign. -/
def Spells (text : List Char) (number : Nat) : Prop :=
  ∃ sign zeros, (sign = [] ∨ sign = ['+']) ∧
    text = sign ++ List.replicate zeros '0' ++ Nat.toDigits 10 number

theorem exists_digitChar {c : Char} (digit : c.isDigit = true) :
    ∃ value < 10, c = value.digitChar := by
  have low : 48 ≤ c.toNat := (Char.isDigit_iff_toNat.mp digit).1
  have high : c.toNat ≤ 57 := (Char.isDigit_iff_toNat.mp digit).2
  have all : ∀ value < 10, Char.ofNat (48 + value) = value.digitChar := by decide
  refine ⟨c.toNat - 48, by omega, ?_⟩
  rw [← all _ (by omega), Nat.add_sub_cancel' low, Char.ofNat_toNat]

/-- Digits are those of their number behind some zeros. -/
theorem exists_zeros {text : List Char} (nonempty : text ≠ [])
    (digits : ∀ c ∈ text, c.isDigit = true) :
    ∃ zeros, text = List.replicate zeros '0' ++ Nat.toDigits 10 (Nat.ofDigitChars 10 text 0) := by
  induction text using List.reverseRecOn with
  | nil => exact absurd rfl nonempty
  | append_singleton front c ih =>
      obtain ⟨value, small, rfl⟩ := exists_digitChar (digits c (by simp))
      have last : Nat.toDigits 10 value = [value.digitChar] := Nat.toDigits_of_lt_base small
      have number : Nat.ofDigitChars 10 (front ++ [value.digitChar]) 0 =
          10 * Nat.ofDigitChars 10 front 0 + value := by
        rw [Nat.ofDigitChars_append, Nat.ofDigitChars_cons_digitChar_of_lt_ten small,
          Nat.ofDigitChars_nil]
      rw [number]
      by_cases emptyFront : front = []
      · refine ⟨0, ?_⟩
        rw [emptyFront, Nat.ofDigitChars_nil, Nat.mul_zero, Nat.zero_add, last]
        rfl
      · obtain ⟨zeros, spelled⟩ :=
          ih emptyFront fun c member => digits c (List.mem_append_left _ member)
        rcases Nat.eq_zero_or_pos (Nat.ofDigitChars 10 front 0) with zero | positive
        · refine ⟨zeros + 1, ?_⟩
          rw [zero, Nat.toDigits_zero] at spelled
          rw [zero, Nat.mul_zero, Nat.zero_add, last, List.replicate_succ', ← spelled]
        · refine ⟨zeros, ?_⟩
          rw [← Nat.toDigits_append_toDigits (by decide) positive small, last, ← List.append_assoc,
            ← spelled]

theorem digits?_eq_some_iff_zeros {text : List Char} {number : Nat} :
    digits? text = some number ↔
      ∃ zeros, text = List.replicate zeros '0' ++ Nat.toDigits 10 number := by
  rw [digits?_eq_some_iff]
  constructor
  · rintro ⟨nonempty, digits, rfl⟩
    exact exists_zeros nonempty digits
  · rintro ⟨zeros, rfl⟩
    refine ⟨?_, ?_, ?_⟩
    · simp [Nat.toDigits_ne_nil]
    · intro c member
      rcases List.mem_append.mp member with zero | digit
      · rw [(List.mem_replicate.mp zero).2]
        rfl
      · exact isDigit_of_mem_toDigits digit
    · rw [Nat.ofDigitChars_append, Nat.ofDigitChars_replicate_zero, Nat.mul_zero,
        Nat.ofDigitChars_ten_toDigits]

theorem unsigned?_eq_some_iff {text : List Char} {number : Nat} :
    unsigned? text = some number ↔ Spells text number := by
  constructor
  · intro read
    unfold unsigned? at read
    split at read
    · obtain ⟨zeros, rfl⟩ := digits?_eq_some_iff_zeros.mp read
      exact ⟨['+'], zeros, Or.inr rfl, rfl⟩
    · obtain ⟨zeros, rfl⟩ := digits?_eq_some_iff_zeros.mp read
      exact ⟨[], zeros, Or.inl rfl, rfl⟩
  · rintro ⟨sign, zeros, rfl | rfl, rfl⟩
    · have read : digits? (List.replicate zeros '0' ++ Nat.toDigits 10 number) = some number :=
        digits?_eq_some_iff_zeros.mpr ⟨zeros, rfl⟩
      rw [List.nil_append, unsigned?_of_digits (digits?_eq_some_iff.mp read).2.1, read]
    · exact digits?_eq_some_iff_zeros.mpr ⟨zeros, rfl⟩

end KeysetPaging.Text.Numeral
