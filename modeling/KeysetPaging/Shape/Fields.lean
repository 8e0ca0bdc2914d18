import KeysetPaging.Shape.Value

/-!
# The description of a query

Named texts, collected one after another. The description sorts them by name, keeps the texts of one
name in the order in which they came, and writes each behind its name and an equals sign, with
ampersands between them. Names are escaped like texts.
-/

namespace KeysetPaging.Shape

/-- The named values of a filter, in the order in which they are described. -/
abbrev Filter := List (String × Value)

/-- The filter that describes each value of a finite map, in the code point order of the names. -/
def Filter.ofMap (entries : List (String × Value)) : Filter :=
  Sorting.sort (fun left right => Text.precedes left.1.toList right.1.toList) entries

/-- An escaped name and the text that stands behind it. -/
structure Entry where
  name : List Char
  text : List Char
  deriving DecidableEq

/-- The name, an equals sign and the text. -/
def Entry.render (entry : Entry) : List Char :=
  entry.name ++ '=' :: entry.text

/-- The entries of a description. -/
structure Fields where
  entries : List Entry
  deriving DecidableEq

namespace Fields

def empty : Fields :=
  ⟨[]⟩

/-- Adds a value under a name; an absent value adds nothing. -/
def add (fields : Fields) (name : String) (value : Value) : Fields :=
  match value.text? with
  | some text => ⟨fields.entries ++ [⟨escape name.toList, text⟩]⟩
  | none => fields

/-- Adds the values of a filter. -/
def addAll (fields : Fields) (filter : Filter) : Fields :=
  filter.foldl (fun fields entry => fields.add entry.1 entry.2) fields

def size (fields : Fields) : Nat :=
  fields.entries.length

def isEmpty (fields : Fields) : Bool :=
  fields.entries.isEmpty

/-- The entries in the code point order of their names. -/
def sorted (fields : Fields) : List Entry :=
  Sorting.sort (fun left right => Text.precedes left.name right.name) fields.entries

def text (fields : Fields) : List Char :=
  Text.join '&' (fields.sorted.map Entry.render)

/-- The texts under a name, in the order in which they came. -/
def textsOf (fields : Fields) (name : List Char) : List (List Char) :=
  (fields.entries.filter fun entry => entry.name == escape name).map Entry.text

theorem add_of_absent {fields : Fields} {name : String} {value : Value}
    (absent : value.text? = none) : fields.add name value = fields := by
  simp [add, absent]

theorem add_of_present {fields : Fields} {name : String} {value : Value} {text : List Char}
    (present : value.text? = some text) :
    fields.add name value = ⟨fields.entries ++ [⟨escape name.toList, text⟩]⟩ := by
  simp [add, present]

@[simp] theorem addAll_nil (fields : Fields) : fields.addAll [] = fields := rfl

@[simp] theorem addAll_cons (fields : Fields) (entry : String × Value) (filter : Filter) :
    fields.addAll (entry :: filter) = (fields.add entry.1 entry.2).addAll filter := rfl

end Fields

end KeysetPaging.Shape
