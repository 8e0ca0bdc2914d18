import KeysetPaging.Json.Value
import KeysetPaging.Text.Numeral
import KeysetPaging.Text.Split

/-!
# Printing JSON

The compact text of a value: no blanks, members in order. In a text only quotes, backslashes and
control characters are escaped, and halves of surrogate pairs, which have no other spelling.
-/

namespace KeysetPaging.Json

/-- The last two digits of an escaped code below 256. -/
def hexPair (code : Nat) : List Char :=
  [Nat.digitChar (code / 16), Nat.digitChar (code % 16)]

/-- The spelling of a character inside a text. -/
def printChar (c : Char) : List Char :=
  if c = '"' then ['\\', '"']
  else if c = '\\' then ['\\', '\\']
  else if c = '\x08' then ['\\', 'b']
  else if c = '\x0c' then ['\\', 'f']
  else if c = '\n' then ['\\', 'n']
  else if c = '\r' then ['\\', 'r']
  else if c = '\t' then ['\\', 't']
  else if c.toNat < 32 then '\\' :: 'u' :: '0' :: '0' :: hexPair c.toNat
  else [c]

/-- The spelling of a letter inside a text. -/
def printLetter : Letter → List Char
  | .character c => printChar c
  | .surrogate code => '\\' :: 'u' :: (hexPair (code / 256) ++ hexPair (code % 256))

def printLetters (letters : List Letter) : List Char :=
  '"' :: letters.flatMap printLetter ++ ['"']

def printNumber : Number → List Char
  | .integer value => Text.Numeral.integerText value
  | .literal text => text

mutual

def print : Json → List Char
  | .null => ['n', 'u', 'l', 'l']
  | .truth true => ['t', 'r', 'u', 'e']
  | .truth false => ['f', 'a', 'l', 's', 'e']
  | .number value => printNumber value
  | .string letters => printLetters letters
  | .array items => '[' :: Text.join ',' (printItems items) ++ [']']
  | .object members => '\x7b' :: Text.join ',' (printMembers members) ++ ['\x7d']

def printItems : List Json → List (List Char)
  | [] => []
  | item :: rest => item.print :: printItems rest

def printMembers : List (List Letter × Json) → List (List Char)
  | [] => []
  | (name, value) :: rest => (printLetters name ++ ':' :: value.print) :: printMembers rest

end

end KeysetPaging.Json
