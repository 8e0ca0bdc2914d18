import KeysetPaging.Fault
import KeysetPaging.Text.Numeral
import KeysetPaging.Text.Split

/-!
# Positions

The place that a cursor marks: the cursor field's value on a row, and the number of a page. Its
payload is the value, an at sign and the page number. The value is free text, so the page number
stands behind the last at sign; it is positive and may carry a plus sign. Every position on a page
reads back from its payload.
-/

namespace KeysetPaging

/-- The page number of every first page. -/
def pageOne : UInt32 := 1

structure Position where
  value : String
  page : UInt32
  deriving DecidableEq

namespace Position

/-- The value, an at sign and the page number. -/
def payload (position : Position) : String :=
  position.value ++ "@" ++ position.page.toNat.repr

/-- The number of a page: one that fits a machine word and is not zero. -/
def page? (text : List Char) : Option UInt32 := do
  let number ← Text.Numeral.unsigned? text
  (Text.Numeral.word32? number).filter fun page => pageOne ≤ page

def ofPayload (payload : String) : Except TokenFault Position :=
  match Text.splitLast? '@' payload.toList with
  | none => .error .noPage
  | some (value, page) =>
      match page? page with
      | some number => .ok ⟨String.ofList value, number⟩
      | none => .error (.badPage (String.ofList page))

/-- The value as a number of 64 bits. -/
def number (position : Position) : Except TokenFault Int64 :=
  match (Text.Numeral.signed? position.value.toList).bind Text.Numeral.signed64? with
  | some number => .ok number
  | none => .error (.notANumber position.value)

theorem toList_payload (position : Position) :
    position.payload.toList =
      position.value.toList ++ '@' :: Nat.toDigits 10 position.page.toNat := by
  simp [payload]

theorem page?_toDigits {page : UInt32} (positive : pageOne ≤ page) :
    page? (Nat.toDigits 10 page.toNat) = some page := by
  unfold page?
  rw [Text.Numeral.unsigned?_toDigits, Option.bind_eq_bind, Option.bind_some,
    Text.Numeral.word32?_toNat]
  exact Option.filter_some_pos (decide_eq_true positive)

theorem ofPayload_payload {position : Position} (positive : pageOne ≤ position.page) :
    ofPayload position.payload = .ok position := by
  have free : '@' ∉ Nat.toDigits 10 position.page.toNat := by
    intro member
    exact absurd (Nat.isDigit_of_mem_toDigits (by decide) (by decide) member) (by decide)
  simp [ofPayload, toList_payload, Text.splitLast?_append free, page?_toDigits positive]

end Position

end KeysetPaging
