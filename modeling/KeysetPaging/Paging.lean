import KeysetPaging.Page.Composition

/-!
# Paging over a record source

One request served from a source of records: the query's cursor is verified, the source is asked for
what the query demands, and the rows become a page. The source works in a monad of its own, so that
it may keep a state or be a plain function; nothing is asked of it once the cursor is rejected.
-/

namespace KeysetPaging

/-- A source of records of type `ρ` that fails with `ε`. A count of `none` says that the source
cannot count. -/
structure Source (m : Type → Type) (ρ ε : Type) where
  fetch : Query → Seek → m (Except ε (List ρ))
  count : Query → m (Except ε (Option UInt64))

/-- Why no page came back: the request, or the source. -/
inductive Failure (ε : Type) where
  | cursor (fault : Fault)
  | source (fault : ε)
  deriving DecidableEq

namespace Failure

variable {ε : Type}

def message (describe : ε → String) : Failure ε → String
  | .cursor fault => fault.message
  | .source fault => "record source failed: " ++ describe fault

/-- Whether the caller's input is to blame. -/
def fromClient : Failure ε → Bool
  | .cursor fault => fault.fromClient
  | .source _ => false

end Failure

namespace Paging

variable {m : Type → Type} {ρ ε : Type}

/-- A total as a page without rows carries it: one that does not fit is as good as unknown. -/
def carryTotalOrUnknown (total : Option UInt64) : Int64 :=
  (Page.carryTotal total).toOption.getD uncounted

/-- The number of all rows, if the query demands it. -/
def countFor [Monad m] (source : Source m ρ ε) (query : Query) :
    m (Except ε (Option UInt64)) :=
  if query.demand.wantsTotal then source.count query else pure (.ok none)

/-- The page for a seek, once the total is known. -/
def servePage [Monad m] [CursorValued ρ] (policy : Policy) (source : Source m ρ ε) (query : Query)
    (seek : Seek) (total : Option UInt64) : m (Traced (Failure ε) (Page ρ)) :=
  if query.demand.wantsRows then do
    match ← source.fetch query seek with
    | .error fault => pure (.fail (.source fault))
    | .ok batch =>
        let page := Page.composeAt policy total batch query (.succeed seek.currentPage)
        pure (page.mapFault .cursor)
  else pure (.succeed (Page.bare query (carryTotalOrUnknown total)))

/-- The page for a seek. -/
def serveSeek [Monad m] [CursorValued ρ] (policy : Policy) (source : Source m ρ ε) (query : Query)
    (seek : Seek) : m (Traced (Failure ε) (Page ρ)) := do
  match ← countFor source query with
  | .error fault => pure (.fail (.source fault))
  | .ok total => servePage policy source query seek total

/-- Serves one request. -/
def serve [Monad m] [CursorValued ρ] (policy : Policy) (source : Source m ρ ε) (query : Query) :
    m (Traced (Failure ε) (Page ρ)) :=
  let sought := Seek.ofQuery policy query
  match sought.outcome with
  | .error fault => pure ⟨.error (.cursor fault), sought.events⟩
  | .ok seek => do
      let served ← serveSeek policy source query seek
      pure (served.after sought.events)

end Paging

end KeysetPaging
