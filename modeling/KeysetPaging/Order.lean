import KeysetPaging.Sorting
import KeysetPaging.Text.Blank
import KeysetPaging.Text.Lexical

/-!
# Orders

What rows are sorted by: a list of fields, each with a direction. A field may occur in it more than
once as far as this type goes, and the first occurrence decides its direction. Turning every
direction around is an involution and turns the direction of each field around. The fields that
callers may order by form an allow-list, kept in code point order without repetition.
-/

namespace KeysetPaging

/-- The direction of one field of an order. -/
inductive Direction where
  | ascending
  | descending
  deriving DecidableEq

namespace Direction

/-- The word for the direction. -/
def label : Direction → String
  | .ascending => "ASC"
  | .descending => "DESC"

def all : List Direction :=
  [.ascending, .descending]

def isAscending : Direction → Bool
  | .ascending => true
  | .descending => false

def flip : Direction → Direction
  | .ascending => .descending
  | .descending => .ascending

@[simp] theorem flip_flip (direction : Direction) : direction.flip.flip = direction := by
  cases direction <;> rfl

@[simp] theorem isAscending_flip (direction : Direction) :
    direction.flip.isAscending = !direction.isAscending := by
  cases direction <;> rfl

end Direction

/-- The fields that every table is taken to have. -/
inductive StandardField where
  | id
  | created
  deriving DecidableEq

namespace StandardField

/-- The name of the field. -/
def name : StandardField → String
  | .id => "id"
  | .created => "gmt_create"

def all : List StandardField :=
  [.id, .created]

/-- The field of a name, up to blanks at its ends and the case of ASCII letters. -/
def named? (text : String) : Option StandardField :=
  let plain := (Text.trim text.toList).map Char.toLower
  all.find? fun field => field.name.toList == plain

end StandardField

/-- The field that cursors point into unless another one is chosen. -/
def standardCursorField : String :=
  StandardField.id.name

/-- One field of an order with its direction. -/
structure SortTerm where
  field : String
  direction : Direction
  deriving DecidableEq

/-- A list of fields to sort by, the most significant first. -/
structure SortOrder where
  terms : List SortTerm
  deriving DecidableEq

namespace SortOrder

/-- The order by one field. -/
def single (field : String) (direction : Direction) : SortOrder :=
  ⟨[⟨field, direction⟩]⟩

def isEmpty (order : SortOrder) : Bool :=
  order.terms.isEmpty

def fields (order : SortOrder) : List String :=
  order.terms.map SortTerm.field

def directions (order : SortOrder) : List Direction :=
  order.terms.map SortTerm.direction

/-- The direction of the first term for the field. -/
def direction? (order : SortOrder) (field : String) : Option Direction :=
  (order.terms.find? fun term => term.field == field).map SortTerm.direction

/-- Every direction turned around. -/
def reversed (order : SortOrder) : SortOrder :=
  ⟨order.terms.map fun term => { term with direction := term.direction.flip }⟩

@[simp] theorem reversed_reversed (order : SortOrder) : order.reversed.reversed = order := by
  cases order with
  | mk terms =>
      simp only [reversed, List.map_map, mk.injEq]
      conv => rhs; rw [← List.map_id terms]
      apply List.map_congr_left
      intro term _
      simp

@[simp] theorem fields_reversed (order : SortOrder) : order.reversed.fields = order.fields := by
  simp [reversed, fields, List.map_map, Function.comp_def]

theorem direction?_reversed (order : SortOrder) (field : String) :
    order.reversed.direction? field = (order.direction? field).map Direction.flip := by
  simp only [direction?, reversed, List.find?_map, Option.map_map]
  rfl

theorem direction?_isSome_iff {order : SortOrder} {field : String} :
    (order.direction? field).isSome = true ↔ field ∈ order.fields := by
  simp [direction?, fields, List.find?_isSome]

end SortOrder

/-- The fields that callers may order by. -/
structure AllowList where
  fields : List String
  deriving DecidableEq

namespace AllowList

/-- The list of the given names in code point order, each name once. -/
def ofNames (names : List String) : AllowList :=
  ⟨Sorting.distinct (fun left right => Text.precedes left.toList right.toList) names⟩

/-- The list of the standard fields. -/
def standard : AllowList :=
  ofNames (StandardField.all.map StandardField.name)

def allows (allowed : AllowList) (field : String) : Bool :=
  allowed.fields.contains field

def size (allowed : AllowList) : Nat :=
  allowed.fields.length

def isEmpty (allowed : AllowList) : Bool :=
  allowed.fields.isEmpty

theorem allows_ofNames {names : List String} {field : String} :
    (ofNames names).allows field = true ↔ field ∈ names := by
  have tie : ∀ a b : String, Text.precedes a.toList b.toList = false →
      Text.precedes b.toList a.toList = false → a = b := by
    intro a b notBefore notAfter
    exact String.toList_inj.mp (Text.eq_of_tie notBefore notAfter)
  simp [allows, ofNames, Sorting.mem_distinct tie]

end AllowList

end KeysetPaging
