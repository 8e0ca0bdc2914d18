import KeysetPaging.Cursor.Binding

/-!
# Seeks

What a record source is asked for: the rows on one side of an anchor value of the cursor field, in
an order, up to a limit. Forward from the anchor is the side that the cursor field's direction
leads to; a request that heads backward asks for the other side in the reversed order, so that the
rows nearest to the anchor come first either way.
-/

namespace KeysetPaging

/-- The side of the anchor that rows are asked from. -/
inductive Side where
  | above
  | below
  deriving DecidableEq

namespace Side

/-- The comparison sign between a row's value and the anchor. -/
def sign : Side → String
  | .above => ">"
  | .below => "<"

/-- The side's name. -/
def label : Side → String
  | .above => "Gt"
  | .below => "Lt"

def all : List Side :=
  [.above, .below]

/-- Whether a row lies on the side, by how its value compares to the anchor. -/
def covers : Side → Ordering → Bool
  | .above, .gt => true
  | .below, .lt => true
  | _, _ => false

def opposite : Side → Side
  | .above => .below
  | .below => .above

/-- The side that a direction leads to. -/
def ahead (ascending : Bool) : Side :=
  if ascending then .above else .below

theorem opposite_ahead (ascending : Bool) : (ahead ascending).opposite = ahead !ascending := by
  cases ascending <;> rfl

end Side

structure Seek where
  heading : Heading
  cursorField : String
  anchor : Option Position
  side : Side
  fetchOrder : SortOrder
  limit : UInt32
  deriving DecidableEq

namespace Seek

/-- The value that rows are compared to. -/
def value (seek : Seek) : Option String :=
  seek.anchor.map Position.value

/-- The page number at the anchor. -/
def currentPage (seek : Seek) : UInt32 :=
  seek.anchor.elim pageOne Position.page

/-- The seek from a verified position, for a cursor field of known direction. -/
def fromAnchor (policy : Policy) (query : Query) (anchor : Option Position) (ascending : Bool) :
    Seek :=
  let ahead := Side.ahead ascending
  { heading := query.heading
    cursorField := query.cursorField
    anchor := anchor
    side := match query.heading with
      | .first => ahead
      | .forward => ahead
      | .backward => ahead.opposite
    fetchOrder := match query.heading with
      | .first => query.order
      | .forward => query.order
      | .backward => query.order.reversed
    limit := policy.endTest.limit query.size }

/-- The seek of a query; its own cursor is verified first. -/
def ofQuery (policy : Policy) (query : Query) : Traced Fault Seek := do
  let anchor ← query.anchor
  let ascending ← Traced.ofExcept (query.ascending.mapError .internal)
  return fromAnchor policy query anchor ascending

end Seek

end KeysetPaging
