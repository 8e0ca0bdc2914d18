/-!
# Faults

What can go wrong, by cause: a query that the policy does not admit, a token that cannot be read, a
token that was made for another query, and a broken promise inside the library. Each cause has one
wording. The class of a fault tells whether the caller's input is to blame.
-/

namespace KeysetPaging

/-- Why a query is not admitted. -/
inductive QueryFault where
  | zeroSize
  | sizeOverMaximum (size maximum : UInt32)
  | zeroMaximum
  | emptyOrder
  | orderLengths (fields directions : Nat)
  | fieldNotAllowed (field : String)
  | fieldRepeated (field : String)
  | cursorFieldMissing (field : String)
  | bothCursors
  deriving DecidableEq

def QueryFault.message : QueryFault → String
  | .zeroSize => "query size must be greater than 0"
  | .sizeOverMaximum size maximum =>
      "query size " ++ size.toNat.repr ++ " exceeds the maximum of " ++ maximum.toNat.repr
  | .zeroMaximum => "max query size must be greater than 0"
  | .emptyOrder => "order fields must not be empty"
  | .orderLengths fields directions =>
      "order arity mismatch: " ++ fields.repr ++ " fields but " ++ directions.repr ++ " directions"
  | .fieldNotAllowed field => "order field '" ++ field ++ "' is not allowed"
  | .fieldRepeated field => "order field '" ++ field ++ "' is listed more than once"
  | .cursorFieldMissing field => "cursor queries must order by '" ++ field ++ "'"
  | .bothCursors => "prev cursor and next cursor must not both be set"

/-- Why a token, or the value inside it, cannot be read. -/
inductive TokenFault where
  | empty
  | tooLong (length limit : Nat)
  | notBase64
  | notUtf8
  | noSignature
  | noPage
  | badPage (raw : String)
  | notANumber (raw : String)
  deriving DecidableEq

def TokenFault.message : TokenFault → String
  | .empty => "cursor token is empty"
  | .tooLong length limit =>
      "cursor token exceeds max length: " ++ length.repr ++ " chars (max " ++ limit.repr ++ ")"
  | .notBase64 => "cursor token is not valid base64"
  | .notUtf8 => "cursor token is not valid utf-8"
  | .noSignature => "cursor token is missing the signature separator"
  | .noPage => "cursor payload is missing the page separator"
  | .badPage raw => "cursor page number '" ++ raw ++ "' is not a positive integer"
  | .notANumber raw => "cursor value '" ++ raw ++ "' is not a number"

/-- The classes that faults are counted and reported by. -/
inductive FaultClass where
  | invalidQuery
  | malformedCursor
  | cursorSignature
  | encoding
  | invariantViolation
  deriving DecidableEq

namespace FaultClass

def label : FaultClass → String
  | .invalidQuery => "invalid_query"
  | .malformedCursor => "malformed_cursor"
  | .cursorSignature => "cursor_signature"
  | .encoding => "encoding"
  | .invariantViolation => "invariant_violation"

def all : List FaultClass :=
  [.invalidQuery, .malformedCursor, .cursorSignature, .encoding, .invariantViolation]

/-- Whether the caller's input is to blame. -/
def fromClient : FaultClass → Bool
  | .invalidQuery => true
  | .malformedCursor => true
  | .cursorSignature => true
  | .encoding => false
  | .invariantViolation => false

end FaultClass

/-- The part of the library that a broken promise comes from. -/
inductive Component where
  | query
  | token
  | page
  | settings
  deriving DecidableEq

namespace Component

def label : Component → String
  | .query => "query"
  | .token => "codec"
  | .page => "assembler"
  | .settings => "config"

def all : List Component :=
  [.query, .token, .page, .settings]

end Component

/-- A promise that the library or a record source did not keep. -/
structure InternalFault where
  kind : FaultClass
  component : Component
  detail : String
  deriving DecidableEq

namespace InternalFault

def message (fault : InternalFault) : String :=
  fault.component.label ++ ":" ++ fault.kind.label ++ ": " ++ fault.detail

/-- A record without a value for the cursor field. -/
def missingValue : InternalFault :=
  ⟨.encoding, .token, "cursor field value is missing"⟩

/-- A token for a page that does not exist. -/
def zeroPage : InternalFault :=
  ⟨.encoding, .token, "cursor page number must be positive"⟩

/-- A query that does not order by its cursor field. -/
def unordered (field : String) : InternalFault :=
  ⟨.invariantViolation, .query, "cursor query must order by '" ++ field ++ "'"⟩

/-- A page after the last page number. -/
def pageOverflow : InternalFault :=
  ⟨.invariantViolation, .page, "page number overflow"⟩

/-- A total that pages cannot carry. -/
def totalOverflow : InternalFault :=
  ⟨.invariantViolation, .page, "total count exceeds i64"⟩

end InternalFault

/-- Everything that can go wrong with queries, tokens and pages. -/
inductive Fault where
  | query (fault : QueryFault)
  | token (fault : TokenFault)
  | signature
  | internal (fault : InternalFault)
  deriving DecidableEq

namespace Fault

def kind : Fault → FaultClass
  | .query _ => .invalidQuery
  | .token _ => .malformedCursor
  | .signature => .cursorSignature
  | .internal fault => fault.kind

def message : Fault → String
  | .query fault => "invalid cursor query: " ++ fault.message
  | .token fault => "malformed cursor: " ++ fault.message
  | .signature => "cursor signature mismatch"
  | .internal fault => fault.message

def fromClient (fault : Fault) : Bool :=
  fault.kind.fromClient

end Fault

end KeysetPaging
