/-!
# Tables of a TOML document

The part of TOML that settings use: texts, integers, lists and tables. A table remembers how it came
about, because that decides which later lines may add to it: a header opens a table once, a dotted
key adds to the tables that dotted keys made, and nothing adds to an inline table.
-/

namespace KeysetPaging.Toml

/-- How a table came about. -/
inductive Origin where
  | header
  | implied
  | dotted
  | inline
  deriving DecidableEq

inductive Value where
  | text (content : String)
  | integer (value : Int)
  | list (items : List Value)
  | table (origin : Origin) (entries : List (String × Value))

/-- The entries of a table, in the order in which they were written. -/
abbrev Entries := List (String × Value)

namespace Entries

def get? (entries : Entries) (key : String) : Option Value :=
  (entries.find? fun entry => entry.1 == key).map Prod.snd

/-- Replaces the value of a key, or puts the key at the end. -/
def put (entries : Entries) (key : String) (value : Value) : Entries :=
  if (entries.get? key).isSome then
    entries.map fun entry => if entry.1 == key then (key, value) else entry
  else entries ++ [(key, value)]

/-- Adds a value at a dotted key; a key that has a value is not given another one. -/
def define? (value : Value) : List String → Entries → Option Entries
  | [], _ => none
  | [key], entries =>
      if (entries.get? key).isSome then none else some (entries ++ [(key, value)])
  | key :: path, entries =>
      match entries.get? key with
      | none => (define? value path []).map fun inner => entries.put key (.table .dotted inner)
      | some (.table .dotted inner) =>
          (define? value path inner).map fun inner => entries.put key (.table .dotted inner)
      | some (.table .implied inner) =>
          (define? value path inner).map fun inner => entries.put key (.table .implied inner)
      | some _ => none

/-- Opens the table of a header; a table that a header or a dotted key made is not opened again. -/
def openTable? : List String → Entries → Option Entries
  | [], _ => none
  | [key], entries =>
      match entries.get? key with
      | none => some (entries ++ [(key, .table .header [])])
      | some (.table .implied inner) => some (entries.put key (.table .header inner))
      | some _ => none
  | key :: path, entries =>
      match entries.get? key with
      | none => (openTable? path []).map fun inner => entries.put key (.table .implied inner)
      | some (.table .inline _) => none
      | some (.table origin inner) =>
          (openTable? path inner).map fun inner => entries.put key (.table origin inner)
      | some _ => none

/-- Changes the entries of the table at a path of headers. -/
def within? (change : Entries → Option Entries) : List String → Entries → Option Entries
  | [], entries => change entries
  | key :: path, entries =>
      match entries.get? key with
      | some (.table origin inner) =>
          (within? change path inner).map fun inner => entries.put key (.table origin inner)
      | _ => none

end Entries

end KeysetPaging.Toml
