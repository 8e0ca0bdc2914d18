import KeysetPaging.Json.Printer
import KeysetPaging.Json.Reader
import KeysetPaging.Json.Schema
import KeysetPaging.Page
import KeysetPaging.Seek
import KeysetPaging.Tally

/-!
# The JSON forms of the library's types

Each type that travels between programs has one JSON form to be written and the forms that are
read as it. Records are written as objects with their fields in declared order, and choices as
their labels.
-/

namespace KeysetPaging

/-- A type with a JSON form. -/
class JsonForm (α : Type) where
  toJson : α → Json
  ofJson? : Json → Option α

namespace JsonForm

variable {α : Type}

/-- The compact text of a value. -/
def write [JsonForm α] (value : α) : String :=
  String.ofList (toJson value).print

/-- The value that a text holds. -/
def read? [JsonForm α] (text : String) : Option α :=
  (Json.read text.toList).bind ofJson?

/-- A record as an object. -/
def record (members : List (String × Json)) : Json :=
  .object (members.map fun member => (Json.letters member.1, member.2))

end JsonForm

open JsonForm

instance : JsonForm EndTest where
  toJson endTest := .ofString endTest.label
  ofJson? := Json.choice? EndTest.all EndTest.label

instance : JsonForm Demand where
  toJson demand := .ofString demand.label
  ofJson? := Json.choice? Demand.all Demand.label

instance : JsonForm Direction where
  toJson direction := .ofString direction.label
  ofJson? := Json.choice? Direction.all Direction.label

instance : JsonForm StandardField where
  toJson field := .ofString field.name
  ofJson? := Json.choice? StandardField.all StandardField.name

instance : JsonForm Side where
  toJson side := .ofString side.label
  ofJson? := Json.choice? Side.all Side.label

namespace SortOrder

def schema : Json.Schema :=
  ⟨["fields"], false⟩

/-- A term as a pair of field and direction. -/
def termToJson (term : SortTerm) : Json :=
  .array [.ofString term.field, toJson term.direction]

def termOfJson? : Json → Option SortTerm
  | .array [field, direction] => do
      let field ← field.string?
      let direction ← ofJson? direction
      return ⟨field, direction⟩
  | _ => none

instance : JsonForm SortOrder where
  toJson order := record [("fields", .array (order.terms.map termToJson))]
  ofJson? json := do
    let [some terms] ← schema.fields? json | none
    let items ← terms.array?
    let terms ← items.mapM termOfJson?
    return ⟨terms⟩

end SortOrder

namespace Position

def schema : Json.Schema :=
  ⟨["value", "page_number"], false⟩

instance : JsonForm Position where
  toJson position :=
    record [("value", .ofString position.value), ("page_number", .ofInt position.page.toNat)]
  ofJson? json := do
    let [some value, some page] ← schema.fields? json | none
    let value ← value.string?
    let page ← page.word32?
    return ⟨value, page⟩

end Position

namespace Settings

def schema : Json.Schema where
  names := ["max_query_size", "default_query_size", "cursor_field", "order_fields",
    "end_detection"]
  defaulted := true

def stringsOfJson? (json : Json) : Option (List String) :=
  json.array?.bind fun items => items.mapM Json.string?

/-- The value of a field that may be left out. -/
def fieldOr {α : Type} (standard : α) (read : Json → Option α) : Option Json → Option α
  | none => some standard
  | some json => read json

instance : JsonForm Settings where
  toJson settings :=
    record [("max_query_size", .ofInt settings.maximumSize.toNat),
      ("default_query_size", .ofInt settings.usualSize.toNat),
      ("cursor_field", .ofString settings.cursorField),
      ("order_fields", .array (settings.orderFields.map .ofString)),
      ("end_detection", toJson settings.endTest)]
  ofJson? json := do
    let [maximumSize, usualSize, cursorField, orderFields, endTest] ← schema.fields? json | none
    let maximumSize ← fieldOr standard.maximumSize Json.word32? maximumSize
    let usualSize ← fieldOr standard.usualSize Json.word32? usualSize
    let cursorField ← fieldOr standard.cursorField Json.string? cursorField
    let orderFields ← fieldOr standard.orderFields stringsOfJson? orderFields
    let endTest ← fieldOr standard.endTest ofJson? endTest
    return ⟨maximumSize, usualSize, cursorField, orderFields, endTest⟩

end Settings

namespace Tally

def schema : Json.Schema where
  names := ["prev_cursors_minted", "next_cursors_minted", "cursors_verified",
    "signature_rejections", "malformed_rejections", "first_pages", "forward_pages",
    "backward_pages", "pages_at_end", "records_paged"]
  defaulted := false

/-- The counts in declared order. -/
def counts (tally : Tally) : List UInt64 :=
  [tally.prevIssued, tally.nextIssued, tally.verified, tally.signatureRejections,
    tally.malformedRejections, tally.firstPages, tally.forwardPages, tally.backwardPages,
    tally.pagesAtEnd, tally.recordsPaged]

def ofCounts? : List UInt64 → Option Tally
  | [prevIssued, nextIssued, verified, signatureRejections, malformedRejections, firstPages,
      forwardPages, backwardPages, pagesAtEnd, recordsPaged] =>
      some ⟨prevIssued, nextIssued, verified, signatureRejections, malformedRejections, firstPages,
        forwardPages, backwardPages, pagesAtEnd, recordsPaged⟩
  | _ => none

instance : JsonForm Tally where
  toJson tally := record (schema.names.zip (tally.counts.map fun count => .ofInt count.toNat))
  ofJson? json := do
    let fields ← schema.fields? json
    let counts ← fields.mapM fun field => field.bind Json.word64?
    ofCounts? counts

end Tally

namespace Page

def schema : Json.Schema where
  names := ["records", "total", "query_size", "query_type", "page_number", "prev_cursor",
    "next_cursor"]
  defaulted := false

instance : JsonForm (Page (Option String)) where
  toJson page :=
    record [("records", .array (page.records.map .ofOption)),
      ("total", .ofInt page.total.toInt),
      ("query_size", .ofInt page.size.toNat),
      ("query_type", toJson page.demand),
      ("page_number", .ofInt page.number.toNat),
      ("prev_cursor", .ofOption page.prevCursor),
      ("next_cursor", .ofOption page.nextCursor)]
  ofJson? json := do
    let [some records, some total, some size, some demand, some number, prevCursor, nextCursor] ←
      schema.fields? json | none
    let items ← records.array?
    let records ← items.mapM Json.optionalString?
    let total ← total.signed64?
    let size ← size.word32?
    let demand ← ofJson? demand
    let number ← number.word32?
    let prevCursor ← Json.optionalField? prevCursor
    let nextCursor ← Json.optionalField? nextCursor
    return ⟨records, total, size, demand, number, prevCursor, nextCursor⟩

end Page

end KeysetPaging
