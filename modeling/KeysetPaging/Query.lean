import KeysetPaging.Policy
import KeysetPaging.Shape.Fields

/-!
# Queries

A request for one page: its size, what it demands, the order, the field that cursors point into, at
most one cursor to start from, and a filter. A cursor for the page before makes the request head
backward, one for the page after forward; without a cursor it asks for the first page. The shape of
a query is the text of everything but the cursors, so moving to another page keeps it.
-/

namespace KeysetPaging

/-- Where a request heads from the place its cursor marks. -/
inductive Heading where
  | first
  | forward
  | backward
  deriving DecidableEq

def Heading.label : Heading → String
  | .first => "first"
  | .forward => "forward"
  | .backward => "backward"

structure Query where
  size : UInt32
  demand : Demand
  order : SortOrder
  cursorField : String
  prevCursor : Option String
  nextCursor : Option String
  filter : Shape.Filter

namespace Query

def isFirstPage (query : Query) : Bool :=
  query.prevCursor.isNone && query.nextCursor.isNone

def heading (query : Query) : Heading :=
  if query.prevCursor.isSome then .backward
  else if query.nextCursor.isSome then .forward
  else .first

/-- The cursor that the request starts from. -/
def cursor? (query : Query) : Option String :=
  query.prevCursor <|> query.nextCursor

/-- Whether the order names any field. -/
def isOrdered (query : Query) : Bool :=
  !query.order.isEmpty

/-- Whether the cursor field ascends, if the order names it. -/
def ascending (query : Query) : Except InternalFault Bool :=
  match query.order.direction? query.cursorField with
  | some direction => .ok direction.isAscending
  | none => .error (.unordered query.cursorField)

def filteredBy (query : Query) (filter : Shape.Filter) : Query :=
  { query with filter }

/-- The same query with another page size, if the policy admits it. -/
def resized (query : Query) (policy : Policy) (size : UInt32) : Except QueryFault Query :=
  (policy.checkSize size).map fun _ => { query with size }

/-- The request for the page after the one a cursor marks. -/
def following (query : Query) (cursor : String) : Query :=
  { query with prevCursor := none, nextCursor := some cursor }

/-- The request for the page before the one a cursor marks. -/
def preceding (query : Query) (cursor : String) : Query :=
  { query with prevCursor := some cursor, nextCursor := none }

/-- The request for the first page. -/
def fromStart (query : Query) : Query :=
  { query with prevCursor := none, nextCursor := none }

/-- The named texts of the query: its size, its demand, its order and its filter. -/
def fields (query : Query) : Shape.Fields :=
  let own := Shape.Fields.empty
    |>.add "query_size" (.integer query.size.toNat)
    |>.add "query_type" (.demand query.demand)
    |>.add "order_fields" (.list (query.order.fields.map .text))
    |>.add "order_types" (.list (query.order.directions.map .direction))
  own.addAll query.filter

/-- The text that a token is bound to. -/
def shape (query : Query) : String :=
  String.ofList query.fields.text

/-- The text of the filter alone. -/
def filterShape (query : Query) : String :=
  String.ofList (Shape.Fields.empty.addAll query.filter).text

@[simp] theorem shape_following (query : Query) (cursor : String) :
    (query.following cursor).shape = query.shape := rfl

@[simp] theorem shape_preceding (query : Query) (cursor : String) :
    (query.preceding cursor).shape = query.shape := rfl

@[simp] theorem shape_fromStart (query : Query) : query.fromStart.shape = query.shape := rfl

@[simp] theorem heading_following (query : Query) (cursor : String) :
    (query.following cursor).heading = .forward := rfl

@[simp] theorem heading_preceding (query : Query) (cursor : String) :
    (query.preceding cursor).heading = .backward := rfl

@[simp] theorem heading_fromStart (query : Query) : query.fromStart.heading = .first := rfl

theorem heading_eq_first_iff {query : Query} :
    query.heading = .first ↔ query.cursor? = none := by
  unfold heading cursor?
  cases query.prevCursor with
  | some cursor => simp
  | none => cases query.nextCursor <;> simp

end Query

end KeysetPaging
