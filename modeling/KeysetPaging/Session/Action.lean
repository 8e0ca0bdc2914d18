import KeysetPaging.Session.State

/-!
# Actions of a session

The single things that a client does, and what comes of each at a desk: the desk after it, an answer,
and the events that were reported. An action that lacks what it needs answers so and changes nothing,
and one that fails leaves policy, query, page and token as they were, with what was reported before the
failure. In a session the events are delivered, and the tally is there to be shown or reset.
-/

namespace KeysetPaging.Session

/-- One change to a draft, with its tokens by reference. -/
inductive DraftStep where
  | plain (change : Draft.Change)
  | cursor (neighbour : Neighbour) (token : TokenRef)

/-- The ways to make a query. -/
inductive Construction where
  | first (size : UInt32)
  | beside (neighbour : Neighbour) (token : TokenRef) (size : Option UInt32)
  | orderedBy (field : String) (direction : Direction)
  | ofLists (prev next : Option TokenRef) (size : UInt32) (demand : Demand) (fields : List String)
      (directions : List Direction)
  | draft (steps : List DraftStep)

inductive Action where
  | showPolicy
  | endBy (endTest : EndTest)
  | setMaximum (maximum : UInt32)
  | checkSize (size : UInt32)
  | checkOrder (order : SortOrder)
  | build (construction : Construction)
  | useStore (table : Table)
  | emptyPage
  | pageOfParts (page : Page Row)
  | appendToRows (suffix : String)
  | pageText
  | showTally
  | resetTally
  | filterBy (filter : Shape.Filter)
  | resize (size : UInt32)
  | head (neighbour : Neighbour) (token : TokenRef)
  | restart
  | makeToken (value : Option String) (page : UInt32)
  | readToken (token : TokenRef)
  | currentPage
  | positions
  | seek
  | compose (rows : List Row) (total : Option UInt64)
  | serve (canCount : Bool)
  | turn (neighbour : Neighbour)

/-- What the accessors of a query's own cursors answer, each verifying anew. -/
structure Positions where
  prev : Except Fault (Option Position)
  next : Except Fault (Option Position)
  prevValue : Except Fault (Option String)
  nextValue : Except Fault (Option String)
  prevNumber : Except Fault (Option Int64)
  nextNumber : Except Fault (Option Int64)

inductive Answer where
  | missing
  | done
  | policy (policy : Policy)
  | notAdmitted (fault : QueryFault)
  | failed (fault : Fault)
  | query (query : Query)
  | noQuery
  | page (page : Page Row)
  | replacedRows (page : Page Row)
  | pageText (text : String) (readsBack : Bool)
  | tally (tally : Tally)
  | token (outcome : Except Fault String)
  | position (outcome : Except Fault Position)
  | currentPage (first second : Except Fault UInt32)
  | positions (positions : Positions)
  | seek (seek : Seek)
  | served (outcome : Except (Failure TableFault) (Page Row)) (fetches counts : Nat)
  | scope (answers : List Answer) (events : List Event)

/-- What comes of an action. -/
structure Deed where
  desk : Desk
  answer : Answer
  events : List Event

namespace Desk

/-- Only answers. -/
def answering (desk : Desk) (answer : Answer) : Deed :=
  ⟨desk, answer, []⟩

/-- Answers how a computation came out, with what it reported. -/
def reporting {ε α : Type} (desk : Desk) (traced : Traced ε α) (answer : Except ε α → Answer) :
    Deed :=
  ⟨desk, answer traced.outcome, traced.events⟩

def setQuery (desk : Desk) (query : Query) : Deed :=
  { desk with query := some query }.answering (.query query)

def setPage (desk : Desk) (page : Page Row) : Deed :=
  { desk with page := some page }.answering (.page page)

/-- Takes a policy over, unless it was not admitted. -/
def takePolicy (desk : Desk) : Except QueryFault Policy → Deed
  | .ok policy => { desk with policy }.answering .done
  | .error fault => desk.answering (.notAdmitted fault)

/-- Takes a query over, unless it was not admitted. -/
def takeQuery (desk : Desk) : Except QueryFault Query → Deed
  | .ok query => desk.setQuery query
  | .error fault => desk.answering (.notAdmitted fault)

/-- Answers how a check came out. -/
def checked (desk : Desk) : Except QueryFault Unit → Deed
  | .ok _ => desk.answering .done
  | .error fault => desk.answering (.notAdmitted fault)

/-- Goes on with something that the desk may lack. -/
def needing {α : Type} (desk : Desk) (needed : Option α) (next : α → Deed) : Deed :=
  needed.elim (desk.answering .missing) next

/-- The change of a draft step, if its token is there. -/
def change? (desk : Desk) : DraftStep → Option Draft.Change
  | .plain change => some change
  | .cursor .prev token => (desk.token? token).map .prevCursor
  | .cursor .next token => (desk.token? token).map .nextCursor

/-- The token of a reference, if there is a reference; the inner `none` says that there is not. -/
def optionalToken? (desk : Desk) : Option TokenRef → Option (Option String)
  | none => some none
  | some token => (desk.token? token).map some

/-- The query of a construction, if its tokens are there. -/
def construct? (desk : Desk) : Construction → Option (Except QueryFault Query)
  | .first size => some (Query.first desk.policy size)
  | .beside neighbour token size =>
      (desk.token? token).map fun cursor =>
        let size := size.getD desk.policy.usualSize
        match neighbour with
        | .prev => Query.prev desk.policy cursor size
        | .next => Query.next desk.policy cursor size
  | .orderedBy field direction => some (Query.orderedBy desk.policy field direction)
  | .ofLists prev next size demand fields directions => do
      let prev ← desk.optionalToken? prev
      let next ← desk.optionalToken? next
      return Query.ofLists desk.policy prev next size demand fields directions
  | .draft steps => (steps.mapM desk.change?).map (Query.ofChanges desk.policy)

/-- Turns to a page beside the current one. -/
def turnTo (desk : Desk) : Option Query → Deed
  | some turned => desk.setQuery turned
  | none => desk.answering .noQuery

/-- Takes the page of a composition over, unless there is none. -/
def takeComposed (desk : Desk) (composed : Traced Fault (Page Row)) : Deed :=
  match composed.outcome with
  | .ok page => ⟨{ desk with page := some page }, .page page, composed.events⟩
  | .error fault => ⟨desk, .failed fault, composed.events⟩

/-- The page number of a query, asked for twice. -/
def callCurrentPage (desk : Desk) (query : Query) : Deed :=
  let page := query.currentPage
  ⟨desk, .currentPage page.outcome page.outcome, page.events ++ page.events⟩

/-- The accessors of a query's own cursors, in the order in which they are called. -/
def callPositions (desk : Desk) (query : Query) : Deed :=
  let prev := query.resolvePrev
  let next := query.resolveNext
  let prevValue := query.prevValue
  let nextValue := query.nextValue
  let prevNumber := query.prevNumber
  let nextNumber := query.nextNumber
  { desk := desk
    answer := .positions ⟨prev.outcome, next.outcome, prevValue.outcome, nextValue.outcome,
      prevNumber.outcome, nextNumber.outcome⟩
    events := prev.events ++ next.events ++ prevValue.events ++ nextValue.events ++
      prevNumber.events ++ nextNumber.events }

/-- Serves a query from the store and takes the page over. -/
def callServe (desk : Desk) (canCount : Bool) (query : Query) : Deed :=
  let source := if canCount then Store.source else Store.uncountingSource
  let (served, store) := (Paging.serve desk.policy source query).run desk.store
  let page := match served.outcome with
    | .ok page => some page
    | .error _ => desk.page
  ⟨{ desk with store, page }, .served served.outcome store.fetches store.counts, served.events⟩

/-- Makes a token and remembers it. -/
def callMakeToken (desk : Desk) (query : Query) (value : Option String) (page : UInt32) : Deed :=
  let outcome := query.tokenFor value page
  match outcome with
  | .ok token => { desk with token := some token }.answering (.token outcome)
  | .error _ => desk.answering (.token outcome)

/-- Does one thing; there is no tally at a desk, so it shows none and resets none. -/
def perform (desk : Desk) : Action → Deed
  | .showPolicy => desk.answering (.policy desk.policy)
  | .endBy endTest =>
      let policy := desk.policy.endingBy endTest
      { desk with policy }.answering (.policy policy)
  | .setMaximum maximum => desk.takePolicy (desk.policy.setMaximum maximum)
  | .checkSize size => desk.checked (desk.policy.checkSize size)
  | .checkOrder order => desk.checked (desk.policy.checkOrder order)
  | .build construction => desk.needing (desk.construct? construction) desk.takeQuery
  | .useStore table => { desk with store := Store.ofTable table }.answering .done
  | .emptyPage => desk.setPage .empty
  | .pageOfParts page => desk.setPage page
  | .appendToRows suffix =>
      desk.needing desk.page fun page =>
        let page := page.map fun row => row.map (· ++ suffix)
        { desk with page := some page }.answering (.replacedRows page)
  | .pageText =>
      desk.needing desk.page fun page =>
        let text := JsonForm.write page
        desk.answering (.pageText text (decide (JsonForm.read? text = some page)))
  | .showTally => desk.answering (.tally .zero)
  | .resetTally => desk.answering .done
  | .filterBy filter =>
      desk.needing desk.query fun query => desk.setQuery (query.filteredBy filter)
  | .resize size =>
      desk.needing desk.query fun query => desk.takeQuery (query.resized desk.policy size)
  | .head neighbour token =>
      desk.needing desk.query fun query => desk.needing (desk.token? token) fun cursor =>
        match neighbour with
        | .prev => desk.setQuery (query.preceding cursor)
        | .next => desk.setQuery (query.following cursor)
  | .restart => desk.needing desk.query fun query => desk.setQuery query.fromStart
  | .makeToken value page =>
      desk.needing desk.query fun query => desk.callMakeToken query value page
  | .readToken token =>
      desk.needing desk.query fun query => desk.needing (desk.token? token) fun cursor =>
        desk.reporting (query.resolve cursor) .position
  | .currentPage => desk.needing desk.query desk.callCurrentPage
  | .positions => desk.needing desk.query desk.callPositions
  | .seek =>
      desk.needing desk.query fun query =>
        desk.reporting (Seek.ofQuery desk.policy query) fun
          | .ok seek => .seek seek
          | .error fault => .failed fault
  | .compose rows total =>
      desk.needing desk.query fun query =>
        desk.takeComposed (Page.compose desk.policy total rows query)
  | .serve canCount => desk.needing desk.query (desk.callServe canCount)
  | .turn neighbour =>
      desk.needing desk.query fun query => desk.needing desk.page fun page =>
        match neighbour with
        | .prev => desk.turnTo (page.preceding query)
        | .next => desk.turnTo (page.following query)

end Desk

/-- Does one thing in a session. -/
def State.perform (state : State) : Action → State × Answer
  | .showTally => (state, .tally state.metrics.tally)
  | .resetTally => ({ state with metrics := state.metrics.resetTally }, .done)
  | action =>
      let deed := state.desk.perform action
      (⟨deed.desk, state.metrics.deliver deed.events⟩, deed.answer)

end KeysetPaging.Session
