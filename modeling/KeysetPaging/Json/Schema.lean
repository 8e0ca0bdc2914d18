import KeysetPaging.Json.Value
import KeysetPaging.Text.Numeral

/-!
# Typed reading of JSON

How typed values are found in JSON. A record is an object with its members in any order, or an array
with its fields in declared order. A choice is its label as a text, or an object whose only member
has the label for a name and null for a value. Numbers must be written as integers and fit.
-/

namespace KeysetPaging.Json

/-- The fields of a record in declared order. A record whose fields all have defaults refuses
members that it does not know, and its array form may end early. -/
structure Schema where
  names : List String
  defaulted : Bool

namespace Schema

/-- The member of a name; a name that repeats is refused. -/
def member? (members : List (String × Json)) (name : String) : Option (Option Json) :=
  match members.filter fun member => member.1 == name with
  | [] => some none
  | [member] => some (some member.2)
  | _ => none

/-- The values of the fields in declared order, `none` for a field that is not given. -/
def fields? (schema : Schema) : Json → Option (List (Option Json))
  | .object members => do
      let named ← members.mapM fun member => (spelled? member.1).map fun name => (name, member.2)
      if schema.defaulted && named.any fun member => !schema.names.contains member.1 then none
      schema.names.mapM (member? named)
  | .array items =>
      if items.length = schema.names.length then some (items.map some)
      else if schema.defaulted && items.length < schema.names.length then
        some (items.map some ++ List.replicate (schema.names.length - items.length) none)
      else none
  | _ => none

end Schema

def string? : Json → Option String
  | .string letters => spelled? letters
  | _ => none

def integer? : Json → Option Int
  | .number (.integer value) => some value
  | _ => none

def array? : Json → Option (List Json)
  | .array items => some items
  | _ => none

def word32? (json : Json) : Option UInt32 :=
  json.integer?.bind Text.Numeral.word32?

def word64? (json : Json) : Option UInt64 :=
  json.integer?.bind Text.Numeral.word64?

def signed64? (json : Json) : Option Int64 :=
  json.integer?.bind Text.Numeral.signed64?

/-- A string, or null for a missing one. -/
def optionalString? : Json → Option (Option String)
  | .null => some none
  | json => json.string?.map some

/-- A string that may be missing, in a field that need not be given. -/
def optionalField? : Option Json → Option (Option String)
  | none => some none
  | some json => json.optionalString?

/-- The choice of a label. -/
def labelled? {α : Type} (all : List α) (label : α → String) (letters : List Letter) : Option α :=
  (spelled? letters).bind fun name => all.find? fun choice => label choice == name

/-- The choice that a value labels. -/
def choice? {α : Type} (all : List α) (label : α → String) : Json → Option α
  | .string letters => labelled? all label letters
  | .object [(letters, .null)] => labelled? all label letters
  | _ => none

end KeysetPaging.Json
