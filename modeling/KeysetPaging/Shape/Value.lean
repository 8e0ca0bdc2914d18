import KeysetPaging.Decimal.Layout
import KeysetPaging.Demand
import KeysetPaging.Order
import KeysetPaging.Shape.Escape
import KeysetPaging.Text.Split

/-!
# Values of a query's description

The values that a filter may hold and the text that each contributes to the description of a query.
An absent value contributes nothing, a present one what it holds. A list contributes the texts of
its elements between commas, and an absent element keeps its place as an empty text.
-/

namespace KeysetPaging.Shape

inductive Value where
  | integer (value : Int)
  | truth (value : Bool)
  | text (value : String)
  | character (value : Char)
  | single (bits : UInt32)
  | double (bits : UInt64)
  | direction (value : Direction)
  | demand (value : Demand)
  | field (value : StandardField)
  | absent
  | present (value : Value)
  | list (elements : List Value)

mutual

/-- The text of a value, if it has one. -/
def Value.text? : Value → Option (List Char)
  | .integer value => some (Text.Numeral.integerText value)
  | .truth value => some (if value then ['t', 'r', 'u', 'e'] else ['f', 'a', 'l', 's', 'e'])
  | .text value => some (escape value.toList)
  | .character value => some (escapeChar value)
  | .single bits => some (Decimal.Format.single.text .standard bits.toNat)
  | .double bits => some (Decimal.Format.double.text .standard bits.toNat)
  | .direction value => some value.label.toList
  | .demand value => some value.label.toList
  | .field value => some value.name.toList
  | .absent => none
  | .present value => value.text?
  | .list elements => some (Text.join ',' (Value.texts elements))

/-- The texts of the elements of a list, the empty text for an absent one. -/
def Value.texts : List Value → List (List Char)
  | [] => []
  | element :: rest => element.text?.getD [] :: Value.texts rest

end

/-- The place of a value's kind among the kinds; absent values come before present ones. -/
def Value.rank : Value → Nat
  | .integer _ => 0
  | .truth _ => 1
  | .text _ => 2
  | .character _ => 3
  | .single _ => 4
  | .double _ => 5
  | .direction _ => 6
  | .demand _ => 7
  | .field _ => 8
  | .absent => 9
  | .present _ => 10
  | .list _ => 11

/-- Compares texts by code points. -/
def compareTexts (left right : String) : Ordering :=
  Text.orderingOf (Text.precedes left.toList right.toList)
    (Text.precedes right.toList left.toList)

/-- Compares numbers by size. -/
def compareSizes (left right : Int) : Ordering :=
  Text.orderingOf (left < right) (right < left)

mutual

/-- Compares values: numbers by size, false before true, texts by code points, absent before
present, lists by their first difference. -/
def Value.compare : Value → Value → Ordering
  | .integer left, .integer right => compareSizes left right
  | .truth left, .truth right => compareSizes left.toNat right.toNat
  | .text left, .text right => compareTexts left right
  | .character left, .character right => compareSizes left.toNat right.toNat
  | .single left, .single right => compareSizes left.toNat right.toNat
  | .double left, .double right => compareSizes left.toNat right.toNat
  | .direction left, .direction right => compareTexts left.label right.label
  | .demand left, .demand right => compareTexts left.label right.label
  | .field left, .field right => compareTexts left.name right.name
  | .present left, .present right => left.compare right
  | .list left, .list right => Value.compareLists left right
  | left, right => compareSizes left.rank right.rank

/-- Compares lists by their first difference; of two lists where one continues the other, the
shorter comes first. -/
def Value.compareLists : List Value → List Value → Ordering
  | [], [] => .eq
  | [], _ :: _ => .lt
  | _ :: _, [] => .gt
  | left :: lefts, right :: rights => (left.compare right).then (Value.compareLists lefts rights)

end

/-- A set: its elements in order, each once. -/
def Value.set (elements : List Value) : Value :=
  .list (Sorting.distinct (fun left right => left.compare right == .lt) elements)

theorem Value.texts_eq_map (elements : List Value) :
    Value.texts elements = elements.map fun element => element.text?.getD [] := by
  induction elements with
  | nil => simp [Value.texts]
  | cons element rest ih => simp [Value.texts, ih]

end KeysetPaging.Shape
