import KeysetPaging.Json.Value
import KeysetPaging.Text.Numeral

/-!
# Reading JSON

The grammar of RFC 8259, without extensions: a reader takes one value off the front of a text, with
blanks before it, and a document is one value with nothing but blanks behind it. Each reader returns
what it read and what is left. The depth of nesting is bounded by the length of the text alone.
-/

namespace KeysetPaging.Json

/-- The blanks between tokens. -/
def isBlank (c : Char) : Bool :=
  c == ' ' || c == '\t' || c == '\n' || c == '\r'

def skipBlanks (text : List Char) : List Char :=
  text.dropWhile isBlank

/-- The value of a hexadecimal digit. -/
def hexDigit? (c : Char) : Option Nat :=
  if '0' ≤ c ∧ c ≤ '9' then some (c.toNat - 48)
  else if 'a' ≤ c ∧ c ≤ 'f' then some (c.toNat - 87)
  else if 'A' ≤ c ∧ c ≤ 'F' then some (c.toNat - 55)
  else none

/-- The value of hexadecimal digits. -/
def hexDigits? (digits : List Char) : Option Nat :=
  digits.foldl
    (fun value c => value.bind fun high => (hexDigit? c).map fun low => high * 16 + low) (some 0)

/-- The character behind a backslash, unless a code follows it. -/
def escaped? (c : Char) : Option Char :=
  if c = '"' then some '"'
  else if c = '\\' then some '\\'
  else if c = '/' then some '/'
  else if c = 'b' then some '\x08'
  else if c = 'f' then some '\x0c'
  else if c = 'n' then some '\n'
  else if c = 'r' then some '\r'
  else if c = 't' then some '\t'
  else none

/-- Whether a code is the first half of a surrogate pair. -/
def isLeading (code : Nat) : Bool :=
  0xD800 ≤ code && code < 0xDC00

/-- Whether a code is the second half of a surrogate pair. -/
def isTrailing (code : Nat) : Bool :=
  0xDC00 ≤ code && code < 0xE000

/-- The character of a surrogate pair. -/
def paired (leading trailing : Nat) : Char :=
  Char.ofNat (0x10000 + (leading - 0xD800) * 0x400 + (trailing - 0xDC00))

/-- Puts a coded letter in front; halves of a surrogate pair that meet become one character. -/
def consCode (code : Nat) (letters : List Letter) : List Letter :=
  if isLeading code then
    match letters with
    | .surrogate trailing :: rest =>
        if isTrailing trailing then .character (paired code trailing) :: rest
        else .surrogate code :: letters
    | _ => .surrogate code :: letters
  else if isTrailing code then .surrogate code :: letters
  else .character (Char.ofNat code) :: letters

/-- The letters up to the closing quote. -/
def readLetters : List Char → Option (List Letter × List Char)
  | [] => none
  | '"' :: rest => some ([], rest)
  | '\\' :: 'u' :: a :: b :: c :: d :: rest => do
      let code ← hexDigits? [a, b, c, d]
      let (letters, rest) ← readLetters rest
      return (consCode code letters, rest)
  | '\\' :: c :: rest => do
      let plain ← escaped? c
      let (letters, rest) ← readLetters rest
      return (.character plain :: letters, rest)
  | c :: rest =>
      if c.toNat < 32 || c == '\\' then none
      else do
        let (letters, rest) ← readLetters rest
        return (.character c :: letters, rest)

/-- The digits at the front, of which there is at least one. -/
def readDigits (text : List Char) : Option (List Char × List Char) :=
  let digits := text.takeWhile Char.isDigit
  if digits.isEmpty then none else some (digits, text.dropWhile Char.isDigit)

/-- The fraction at the front, if there is one. -/
def readFraction : List Char → Option (List Char × List Char)
  | '.' :: rest => (readDigits rest).map fun (digits, rest) => ('.' :: digits, rest)
  | text => some ([], text)

/-- The digits of an exponent behind an optional sign. -/
def readSignedDigits : List Char → Option (List Char × List Char)
  | '+' :: rest => (readDigits rest).map fun (digits, rest) => ('+' :: digits, rest)
  | '-' :: rest => (readDigits rest).map fun (digits, rest) => ('-' :: digits, rest)
  | text => readDigits text

/-- The exponent at the front, if there is one. -/
def readExponent : List Char → Option (List Char × List Char)
  | 'e' :: rest => (readSignedDigits rest).map fun (digits, rest) => ('e' :: digits, rest)
  | 'E' :: rest => (readSignedDigits rest).map fun (digits, rest) => ('E' :: digits, rest)
  | text => some ([], text)

/-- The number without its minus sign at the front. -/
def readMagnitude (negative : Bool) (text : List Char) : Option (Number × List Char) := do
  let (whole, rest) ← readDigits text
  if whole.head? == some '0' && 1 < whole.length then none
  let (fraction, rest) ← readFraction rest
  let (exponent, rest) ← readExponent rest
  let value := Nat.ofDigitChars 10 whole 0
  let sign := if negative then ['-'] else []
  if fraction.isEmpty && exponent.isEmpty && !(negative && value == 0) then
    return (.integer (if negative then -(value : Int) else value), rest)
  else return (.literal (sign ++ whole ++ fraction ++ exponent), rest)

/-- The number at the front. -/
def readNumber : List Char → Option (Number × List Char)
  | '-' :: rest => readMagnitude true rest
  | text => readMagnitude false text

mutual

/-- The value at the front. -/
def readValue : Nat → List Char → Option (Json × List Char)
  | 0, _ => none
  | fuel + 1, text =>
      match skipBlanks text with
      | 'n' :: 'u' :: 'l' :: 'l' :: rest => some (.null, rest)
      | 't' :: 'r' :: 'u' :: 'e' :: rest => some (.truth true, rest)
      | 'f' :: 'a' :: 'l' :: 's' :: 'e' :: rest => some (.truth false, rest)
      | '"' :: rest => (readLetters rest).map fun (letters, rest) => (.string letters, rest)
      | '[' :: rest =>
          match skipBlanks rest with
          | ']' :: rest => some (.array [], rest)
          | rest => (readItems fuel rest).map fun (items, rest) => (.array items, rest)
      | '\x7b' :: rest =>
          match skipBlanks rest with
          | '\x7d' :: rest => some (.object [], rest)
          | rest => (readMembers fuel rest).map fun (members, rest) => (.object members, rest)
      | rest => (readNumber rest).map fun (value, rest) => (.number value, rest)

/-- The items up to the closing bracket, of which there is at least one. -/
def readItems : Nat → List Char → Option (List Json × List Char)
  | 0, _ => none
  | fuel + 1, text => do
      let (item, rest) ← readValue fuel text
      match skipBlanks rest with
      | ',' :: rest => (readItems fuel rest).map fun (items, rest) => (item :: items, rest)
      | ']' :: rest => some ([item], rest)
      | _ => none

/-- The members up to the closing brace, of which there is at least one. -/
def readMembers : Nat → List Char → Option (List (List Letter × Json) × List Char)
  | 0, _ => none
  | fuel + 1, text =>
      match skipBlanks text with
      | '"' :: rest => do
          let (name, rest) ← readLetters rest
          match skipBlanks rest with
          | ':' :: rest => do
              let (value, rest) ← readValue fuel rest
              match skipBlanks rest with
              | ',' :: rest =>
                  (readMembers fuel rest).map fun (members, rest) =>
                    ((name, value) :: members, rest)
              | '\x7d' :: rest => some ([(name, value)], rest)
              | _ => none
          | _ => none
      | _ => none

end

/-- The value of a document. Two steps of fuel for each character are enough, because every second
nested call takes at least one character. -/
def read (text : List Char) : Option Json := do
  let (value, rest) ← readValue (2 * text.length + 2) text
  if (skipBlanks rest).isEmpty then some value else none

end KeysetPaging.Json
