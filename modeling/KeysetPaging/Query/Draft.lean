import KeysetPaging.Query

/-!
# Drafts

A query is built from a draft that starts with the policy's usual page size and takes changes one
after another. A change replaces what an earlier one set, except that each further field is added
to the order. The finished draft is checked against the policy: first its size, then its order, then
that it holds at most one cursor. The usual queries are short lists of changes.
-/

namespace KeysetPaging

structure Draft where
  size : UInt32
  demand : Demand
  terms : List SortTerm
  prevCursor : Option String
  nextCursor : Option String
  filter : Shape.Filter

namespace Draft

/-- One change to a draft. -/
inductive Change where
  | size (size : UInt32)
  | demand (demand : Demand)
  | orderBy (field : String) (direction : Direction)
  | prevCursor (cursor : String)
  | nextCursor (cursor : String)
  | filter (filter : Shape.Filter)

def start (policy : Policy) : Draft where
  size := policy.usualSize
  demand := .standard
  terms := []
  prevCursor := none
  nextCursor := none
  filter := []

def change (draft : Draft) : Change → Draft
  | .size size => { draft with size }
  | .demand demand => { draft with demand }
  | .orderBy field direction => { draft with terms := draft.terms ++ [⟨field, direction⟩] }
  | .prevCursor cursor => { draft with prevCursor := some cursor }
  | .nextCursor cursor => { draft with nextCursor := some cursor }
  | .filter filter => { draft with filter }

/-- The query of a draft, if the policy admits it. -/
def finish (draft : Draft) (policy : Policy) : Except QueryFault Query := do
  policy.checkSize draft.size
  policy.checkOrder ⟨draft.terms⟩
  if draft.prevCursor.isSome && draft.nextCursor.isSome then
    throw .bothCursors
  return {
    size := draft.size
    demand := draft.demand
    order := ⟨draft.terms⟩
    cursorField := policy.cursorField
    prevCursor := draft.prevCursor
    nextCursor := draft.nextCursor
    filter := draft.filter }

end Draft

namespace Query

/-- The query that a list of changes makes. -/
def ofChanges (policy : Policy) (changes : List Draft.Change) : Except QueryFault Query :=
  (changes.foldl Draft.change (Draft.start policy)).finish policy

/-- The first page, the latest rows first. -/
def first (policy : Policy) (size : UInt32) : Except QueryFault Query :=
  ofChanges policy [.size size, .orderBy policy.cursorField .descending]

/-- The page after the one a cursor marks, the latest rows first. -/
def next (policy : Policy) (cursor : String) (size : UInt32) : Except QueryFault Query :=
  ofChanges policy
    [.size size, .orderBy policy.cursorField .descending, .nextCursor cursor]

/-- The page before the one a cursor marks, the latest rows first. -/
def prev (policy : Policy) (cursor : String) (size : UInt32) : Except QueryFault Query :=
  ofChanges policy
    [.size size, .orderBy policy.cursorField .descending, .prevCursor cursor]

/-- The first page of the usual size in the order of a field, with ties in the order of the cursor
field. -/
def orderedBy (policy : Policy) (field : String) (direction : Direction) :
    Except QueryFault Query :=
  let tieBreak := if field = policy.cursorField then []
    else [Draft.Change.orderBy policy.cursorField direction]
  ofChanges policy (.orderBy field direction :: tieBreak)

/-- The query of separate lists of fields and directions, which must be of one length. -/
def ofLists (policy : Policy) (prevCursor nextCursor : Option String) (size : UInt32)
    (demand : Demand) (fields : List String) (directions : List Direction) :
    Except QueryFault Query :=
  if fields.length = directions.length then
    ofChanges policy
      ([.size size, .demand demand] ++ List.zipWith .orderBy fields directions ++
        prevCursor.toList.map .prevCursor ++ nextCursor.toList.map .nextCursor)
  else .error (.orderLengths fields.length directions.length)

end Query

end KeysetPaging
