import KeysetPaging.Decimal.Shortest
import KeysetPaging.Text.Numeral

/-!
# The text of a floating-point number

A number of one of the two common formats, given by its bits, is written with its shortest digits:
from `10^-4` on and below `10^16` in positional notation with at least one digit behind the point,
any other with an exponent. Zero keeps its sign, and what is not a number has none.
-/

namespace KeysetPaging.Decimal

/-- The widths of the fields of an interchange format. -/
structure Format where
  fractionBits : Nat
  exponentBits : Nat

/-- The format of 32 bits. -/
def Format.single : Format := ⟨23, 8⟩

/-- The format of 64 bits. -/
def Format.double : Format := ⟨52, 11⟩

/-- What the bits of a number mean, apart from the sign. -/
inductive Magnitude where
  | notANumber
  | infinite
  | zero
  | finite (number : Binary)

/-- Whether the sign bit is set. -/
def Format.negative (format : Format) (bits : Nat) : Bool :=
  bits / Nat.pow 2 (format.fractionBits + format.exponentBits) % 2 = 1

/-- The magnitude that the bits below the sign stand for. -/
def Format.magnitude (format : Format) (bits : Nat) : Magnitude :=
  let fractions := Nat.pow 2 format.fractionBits
  let exponents := Nat.pow 2 format.exponentBits
  let fraction := bits % fractions
  let exponent := bits / fractions % exponents
  let lowest : Int := 2 - (exponents / 2 : Nat) - format.fractionBits
  if exponent + 1 = exponents then
    if fraction = 0 then .infinite else .notANumber
  else if exponent = 0 then
    if fraction = 0 then .zero else .finite ⟨fraction, lowest, false⟩
  else
    .finite ⟨fraction + fractions, lowest + (exponent - 1),
      fraction = 0 && 1 < exponent⟩

/-- Which numbers are written in positional notation: those of at least `10^low` and below
`10^high`. -/
structure Layout where
  low : Int
  high : Int

/-- Positional from a ten-thousandth on and below ten to the sixteenth. -/
def Layout.standard : Layout := ⟨-4, 16⟩

/-- Digits with a point behind the given number of them, and zeros where digits lack. -/
def positional (digits : List Char) (whole : Int) : List Char :=
  if whole ≤ 0 then '0' :: '.' :: (List.replicate (-whole).toNat '0' ++ digits)
  else
    let front := digits.take whole.toNat
    let back := digits.drop whole.toNat
    let zeros := List.replicate (whole.toNat - front.length) '0'
    front ++ zeros ++ '.' :: (if back.isEmpty then ['0'] else back)

/-- One digit before the point, the others behind it, and the exponent of the first. -/
def exponential (digits : List Char) (leading : Int) : List Char :=
  let back := digits.drop 1
  let fraction := if back.isEmpty then [] else '.' :: back
  digits.take 1 ++ fraction ++ 'e' :: Text.Numeral.integerText leading

/-- The text of a decimal in a layout. -/
def Layout.text (layout : Layout) (number : Scientific) : List Char :=
  let digits := Nat.toDigits 10 number.digits
  let leading := number.exponent + (digits.length - 1)
  if layout.low ≤ leading ∧ leading < layout.high then positional digits (leading + 1)
  else exponential digits leading

/-- The text of a magnitude. -/
def Magnitude.text (layout : Layout) : Magnitude → List Char
  | .notANumber => ['N', 'a', 'N']
  | .infinite => ['i', 'n', 'f']
  | .zero => ['0', '.', '0']
  | .finite number => layout.text number.shortest

/-- The text of the number with the given bits. -/
def Format.text (format : Format) (layout : Layout) (bits : Nat) : List Char :=
  match format.magnitude bits with
  | .notANumber => Magnitude.text layout .notANumber
  | magnitude =>
      if format.negative bits then '-' :: magnitude.text layout else magnitude.text layout

end KeysetPaging.Decimal
