/-!
# JSON values

A JSON value as it is written: numbers keep apart whether they are written as integers, and a text
may hold halves of surrogate pairs, which its escapes can spell though no string can hold them. The
members of an object keep their order and may repeat a name.
-/

namespace KeysetPaging

namespace Json

/-- One element of a text: a character, or half of a surrogate pair on its own. -/
inductive Letter where
  | character (c : Char)
  | surrogate (code : Nat)
  deriving DecidableEq

/-- A number written as an integer, or the text of any other one. Minus zero is not an integer. -/
inductive Number where
  | integer (value : Int)
  | literal (text : List Char)
  deriving DecidableEq

end Json

inductive Json where
  | null
  | truth (value : Bool)
  | number (value : Json.Number)
  | string (letters : List Json.Letter)
  | array (items : List Json)
  | object (members : List (List Json.Letter × Json))

namespace Json

/-- The letters of a string. -/
def letters (text : String) : List Letter :=
  text.toList.map .character

/-- The characters of letters, if each is one. -/
def characters? : List Letter → Option (List Char)
  | [] => some []
  | .character c :: rest => (characters? rest).map (c :: ·)
  | .surrogate _ :: _ => none

/-- The string that letters spell, if they spell one. -/
def spelled? (letters : List Letter) : Option String :=
  (characters? letters).map String.ofList

def ofString (text : String) : Json :=
  .string (letters text)

def ofInt (value : Int) : Json :=
  .number (.integer value)

/-- Null for a missing string. -/
def ofOption : Option String → Json
  | none => .null
  | some text => ofString text

theorem spelled?_letters (text : String) : spelled? (letters text) = some text := by
  have spelled : ∀ chars : List Char, characters? (chars.map .character) = some chars := by
    intro chars
    induction chars with
    | nil => rfl
    | cons c rest ih => simp [characters?, ih]
  simp [spelled?, letters, spelled]

end Json

end KeysetPaging
