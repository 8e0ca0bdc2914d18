import KeysetPaging.Page
import KeysetPaging.Seek

/-!
# Putting a page together

A batch of rows becomes a page: the row that was asked for beyond the page's size is cut off, a
batch that was fetched backward is turned around, and tokens are made for the neighbouring pages.
The page before a forward page, and the page after a backward one, exist because the request came
from there; the neighbour on the far side exists unless the batch reached the end.
-/

namespace KeysetPaging.Page

variable {ρ : Type}

/-- The records that a batch contributes to the page of a query, in the order of the query. -/
def arrange (query : Query) (batch : List ρ) : List ρ :=
  let kept := batch.take query.size.toNat
  match query.heading with
  | .first => kept
  | .forward => kept
  | .backward => kept.reverse

/-- The cursors beside a page and its number. -/
structure Place where
  prevCursor : Option String
  nextCursor : Option String
  number : UInt32
  deriving DecidableEq

/-- The page number shown when heading backward from a page; there is none before the first. -/
def numberBefore (page : UInt32) : UInt32 :=
  if page ≤ pageOne then pageOne else page - 1

/-- The token for the page after the current one. -/
def issueNext (query : Query) (value : Option String) (page : UInt32) : Traced Fault String :=
  if page = 4294967295 then .fail (.internal .pageOverflow)
  else query.issue .next value (page + 1)

/-- The token for the next page, unless the end is reached. -/
def issueUnlessEnd (query : Query) (reachedEnd : Bool) (value : Option String) (page : UInt32) :
    Traced Fault (Option String) :=
  if reachedEnd then .succeed none
  else do
    let token ← issueNext query value page
    return some token

/-- Makes the tokens beside a page whose first and last records have the given values. -/
def locate (query : Query) (reachedEnd : Bool) (first last : Option String) (page : UInt32) :
    Traced Fault Place :=
  match query.heading with
  | .first => do
      let next ← issueUnlessEnd query reachedEnd last page
      return ⟨none, next, page⟩
  | .forward => do
      let prev ← query.issue .prev first page
      let next ← issueUnlessEnd query reachedEnd last page
      return ⟨some prev, next, page⟩
  | .backward => do
      let shown := numberBefore page
      let next ← query.issue .next last page
      if reachedEnd || shown ≤ pageOne then return ⟨none, some next, shown⟩
      else
        let prev ← query.issue .prev first shown
        return ⟨some prev, some next, shown⟩

/-- A total as a page carries it. -/
def carryTotal : Option UInt64 → Except Fault Int64
  | none => .ok uncounted
  | some total =>
      if total.toNat < 9223372036854775808 then .ok total.toInt64
      else .error (.internal .totalOverflow)

/-- The page of a batch that holds rows, at a known page number. -/
def composeRows [CursorValued ρ] (policy : Policy) (total : Option UInt64) (batch : List ρ)
    (query : Query) (page : UInt32) : Traced Fault (Page ρ) := do
  let reachedEnd := policy.endTest.reached batch.length query.size.toNat
  let records := arrange query batch
  let place ← locate query reachedEnd (records.head?.bind cursorValue)
    (records.getLast?.bind cursorValue) page
  let total ← Traced.ofExcept (carryTotal total)
  Traced.report (.composed query.heading records.length reachedEnd)
  return {
    records := records
    total := total
    size := query.size
    demand := query.demand
    number := place.number
    prevCursor := place.prevCursor
    nextCursor := place.nextCursor }

/-- The page of a batch; the current page number is computed only if the batch holds rows. -/
def composeAt [CursorValued ρ] (policy : Policy) (total : Option UInt64) (batch : List ρ)
    (query : Query) (currentPage : Traced Fault UInt32) : Traced Fault (Page ρ) :=
  if batch.isEmpty then ⟨.ok (bare query uncounted), [.composed query.heading 0 true]⟩
  else do
    let page ← currentPage
    composeRows policy total batch query page

/-- The page of a batch; the query's own cursor is verified if the batch holds rows. -/
def compose [CursorValued ρ] (policy : Policy) (total : Option UInt64) (batch : List ρ)
    (query : Query) : Traced Fault (Page ρ) :=
  composeAt policy total batch query query.currentPage

end KeysetPaging.Page
