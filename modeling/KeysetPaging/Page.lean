import KeysetPaging.Cursor.Position
import KeysetPaging.Query

/-!
# Pages

The answer to a request: the records, the number of all rows if it was asked for and is known, what
the request was, the page number, and cursors for the neighbouring pages.
-/

namespace KeysetPaging

/-- A record that may report its value for the cursor field. -/
class CursorValued (ρ : Type) where
  cursorValue : ρ → Option String

export CursorValued (cursorValue)

/-- The total of a page when the number of all rows is not known. -/
def uncounted : Int64 := -1

structure Page (ρ : Type) where
  records : List ρ
  total : Int64
  size : UInt32
  demand : Demand
  number : UInt32
  prevCursor : Option String
  nextCursor : Option String
  deriving DecidableEq

namespace Page

variable {ρ σ : Type}

/-- A page that answers no request. -/
def empty : Page ρ where
  records := []
  total := uncounted
  size := 0
  demand := .standard
  number := pageOne
  prevCursor := none
  nextCursor := none

/-- A first page of the given parts. -/
def ofParts (total : Int64) (records : List ρ) (size : UInt32) (demand : Demand)
    (prevCursor nextCursor : Option String) : Page ρ where
  records := records
  total := total
  size := size
  demand := demand
  number := pageOne
  prevCursor := prevCursor
  nextCursor := nextCursor

/-- The answer to a query that found no record. -/
def bare (query : Query) (total : Int64) : Page ρ :=
  ofParts total [] query.size query.demand none none

/-- The number of all rows, if it is known. -/
def totalCount (page : Page ρ) : Option Nat :=
  if page.total < 0 then none else some page.total.toNatClampNeg

def hasPrev (page : Page ρ) : Bool :=
  page.prevCursor.isSome

def hasNext (page : Page ρ) : Bool :=
  page.nextCursor.isSome

def length (page : Page ρ) : Nat :=
  page.records.length

def isEmpty (page : Page ρ) : Bool :=
  page.records.isEmpty

def first? (page : Page ρ) : Option ρ :=
  page.records.head?

def last? (page : Page ρ) : Option ρ :=
  page.records.getLast?

/-- The same page with each record replaced. -/
def map (replace : ρ → σ) (page : Page ρ) : Page σ :=
  { page with records := page.records.map replace }

/-- The request for the page after this one. -/
def following (page : Page ρ) (query : Query) : Option Query :=
  page.nextCursor.map query.following

/-- The request for the page before this one. -/
def preceding (page : Page ρ) (query : Query) : Option Query :=
  page.prevCursor.map query.preceding

end Page

end KeysetPaging
