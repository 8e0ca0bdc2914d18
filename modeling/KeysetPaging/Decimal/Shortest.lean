/-!
# Shortest decimals

The decimal with the fewest digits among those that a binary floating-point number is the nearest
one to. A number `m · 2^q` stands for an interval of reals that reaches half a unit to both sides,
and a quarter of a unit down where the numbers below lie twice as dense; the ends belong to it if
`m` is even. Grids of powers of ten are tried from the coarsest to the finest, and the first one
with a point inside the interval decides. Of two such points the nearer one is taken, and on a tie
the upper one. All of it is exact arithmetic on natural numbers.
-/

namespace KeysetPaging.Decimal

/-- The positive number `significand · 2^exponent`; `narrow` if the number below is half as far
away as the number above. -/
structure Binary where
  significand : Nat
  exponent : Int
  narrow : Bool

/-- The positive number `digits · 10^exponent`. -/
structure Scientific where
  digits : Nat
  exponent : Int

/-- The numerator and the denominator that turn quarters of a unit into points of the grid of
multiples of `10^place`. -/
def Binary.scale (number : Binary) (place : Int) : Nat × Nat :=
  (Nat.pow 2 (number.exponent - 2).toNat * Nat.pow 10 (-place).toNat,
    Nat.pow 2 (2 - number.exponent).toNat * Nat.pow 10 place.toNat)

/-- The number in quarters of a unit. -/
def Binary.quarters (number : Binary) : Nat :=
  4 * number.significand

/-- Whether the point of the grid rounds to the number. -/
def Binary.admits (number : Binary) (place : Int) (point : Nat) : Bool :=
  let (up, down) := number.scale place
  let low := (number.quarters - if number.narrow then 1 else 2) * up
  let high := (number.quarters + 2) * up
  if number.significand % 2 = 0 then low ≤ point * down && point * down ≤ high
  else low < point * down && point * down < high

/-- The point of the grid at or below the number. -/
def Binary.floor (number : Binary) (place : Int) : Nat :=
  let (up, down) := number.scale place
  number.quarters * up / down

/-- Whether the number is nearer to the point of the grid below it than to the one above. -/
def Binary.nearerBelow (number : Binary) (place : Int) : Bool :=
  let (up, down) := number.scale place
  2 * (number.quarters * up % down) < down

/-- The nearest point of the grid, if it rounds to the number. -/
def Binary.point? (number : Binary) (place : Int) : Option Nat :=
  let below := number.floor place
  let above := below + 1
  match number.admits place below, number.admits place above with
  | true, true => some (if number.nearerBelow place then below else above)
  | true, false => some below
  | false, true => some above
  | false, false => none

/-- Tries grids from the given one on, each ten times as fine as the one before. -/
def Binary.search (number : Binary) : Nat → Int → Scientific
  | 0, place => ⟨number.floor place, place⟩
  | tries + 1, place =>
      match number.point? place with
      | some digits => ⟨digits, place⟩
      | none => number.search tries (place - 1)

/-- The least number of tenfold enlargements, up to a bound, that make the fraction at least one. -/
def enlargements (numerator denominator : Nat) : Nat → Nat
  | 0 => 0
  | bound + 1 =>
      if denominator ≤ numerator then 0
      else enlargements (numerator * 10) denominator bound + 1

/-- The exponent of the leading digit of the number. -/
def Binary.leading (number : Binary) : Int :=
  let numerator := number.significand * Nat.pow 2 number.exponent.toNat
  let denominator := Nat.pow 2 (-number.exponent).toNat
  if denominator ≤ numerator then (Nat.toDigits 10 (numerator / denominator)).length - 1
  else -(enlargements numerator denominator (-number.exponent).toNat : Int)

/-- Drops trailing zeros, at most as many as given. -/
def Scientific.strip (number : Scientific) : Nat → Scientific
  | 0 => number
  | bound + 1 =>
      if number.digits % 10 = 0 then
        Scientific.strip ⟨number.digits / 10, number.exponent + 1⟩ bound
      else number

/-- No number of a format with at most 53 significant bits needs more digits. -/
def mostDigits : Nat := 17

/-- The shortest decimal that the number is nearest to, without trailing zeros. -/
def Binary.shortest (number : Binary) : Scientific :=
  (number.search mostDigits number.leading).strip mostDigits

end KeysetPaging.Decimal
