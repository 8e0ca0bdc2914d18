import KeysetPaging.Cursor.Position
import KeysetPaging.Cursor.Token
import KeysetPaging.Traced

/-!
# Cursors of a query

Tokens are made for a query and verify for every query of the same shape. Verifying checks the
signature before it looks into the payload, and reports what came of it; so does every accessor that
reads one of the query's own cursors.
-/

namespace KeysetPaging.Query

/-- The token for a row's value and a page number. -/
def tokenFor (query : Query) (value : Option String) (page : UInt32) : Except Fault String :=
  match value with
  | none => .error (.internal .missingValue)
  | some value =>
      if page < pageOne then .error (.internal .zeroPage)
      else .ok (SignedPayload.ofPayload query.shape (Position.payload ⟨value, page⟩)).token

/-- The position that a token marks, if it was made for a query of this shape. -/
def read (query : Query) (token : String) : Except Fault Position :=
  match SignedPayload.ofToken token with
  | .error fault => .error (.token fault)
  | .ok signed =>
      if signed.isSignedFor query.shape then (Position.ofPayload signed.payload).mapError .token
      else .error .signature

/-- Verifies a token and reports what came of it. -/
def resolve (query : Query) (token : String) : Traced Fault Position :=
  match query.read token with
  | .ok position => ⟨.ok position, [.verified]⟩
  | .error fault => ⟨.error fault, [.rejected fault.kind]⟩

/-- Makes the token for a neighbouring page and reports it. -/
def issue (query : Query) (neighbour : Neighbour) (value : Option String) (page : UInt32) :
    Traced Fault String :=
  match query.tokenFor value page with
  | .ok token => ⟨.ok token, [.issued neighbour]⟩
  | .error fault => ⟨.error fault, []⟩

/-- The position that a cursor marks, if there is a cursor. -/
def resolve? (query : Query) : Option String → Traced Fault (Option Position)
  | none => .succeed none
  | some token => do
      let position ← query.resolve token
      return some position

/-- The position that the request starts from. -/
def anchor (query : Query) : Traced Fault (Option Position) :=
  query.resolve? query.cursor?

/-- The page number of the position that the request starts from. -/
def currentPage (query : Query) : Traced Fault UInt32 := do
  let position ← query.anchor
  return position.elim pageOne Position.page

def resolvePrev (query : Query) : Traced Fault (Option Position) :=
  query.resolve? query.prevCursor

def resolveNext (query : Query) : Traced Fault (Option Position) :=
  query.resolve? query.nextCursor

/-- The number that a position's value spells, if there is a position. -/
def numberOf : Option Position → Traced Fault (Option Int64)
  | none => .succeed none
  | some position => .ofExcept ((position.number.map some).mapError .token)

def prevValue (query : Query) : Traced Fault (Option String) := do
  let position ← query.resolvePrev
  return position.map Position.value

def nextValue (query : Query) : Traced Fault (Option String) := do
  let position ← query.resolveNext
  return position.map Position.value

def prevNumber (query : Query) : Traced Fault (Option Int64) := do
  let position ← query.resolvePrev
  numberOf position

def nextNumber (query : Query) : Traced Fault (Option Int64) := do
  let position ← query.resolveNext
  numberOf position

end KeysetPaging.Query
