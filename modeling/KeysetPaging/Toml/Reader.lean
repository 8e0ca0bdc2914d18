import KeysetPaging.Json.Reader
import KeysetPaging.Toml.Value

/-!
# Reading TOML

The grammar of TOML 1.1 for the values that settings use, and one thing that it does not have: inside
an inline table, lines may end around an equals sign too. A reader takes something off the front of a
text and returns it with what is left. Values of other kinds, and headers of arrays of tables, are
refused when they are met, because no setting could hold them.
-/

namespace KeysetPaging.Toml

def isBlank (c : Char) : Bool :=
  c == ' ' || c == '\t'

def skipBlanks (text : List Char) : List Char :=
  text.dropWhile isBlank

/-- Whether a character may stand in a comment or in a text: control characters other than the tab
may not. -/
def isPlain (c : Char) : Bool :=
  c == '\t' || (32 ≤ c.toNat && c.toNat != 127)

/-- Skips blanks, ends of lines and comments; the flag tells whether the text starts inside a
comment. -/
def skipSpace : Bool → List Char → Option (List Char)
  | _, [] => some []
  | _, '\n' :: rest => skipSpace false rest
  | _, '\r' :: '\n' :: rest => skipSpace false rest
  | true, c :: rest => if isPlain c then skipSpace true rest else none
  | false, '#' :: rest => skipSpace true rest
  | false, c :: rest => if isBlank c then skipSpace false rest else some (c :: rest)

/-- What follows the end of a line; a comment is left to be skipped with the lines behind it. -/
def endLine (text : List Char) : Option (List Char) :=
  match skipBlanks text with
  | [] => some []
  | '\n' :: rest => some rest
  | '\r' :: '\n' :: rest => some rest
  | '#' :: rest => some ('#' :: rest)
  | _ => none

/-- The character of a code, unless it is half of a surrogate pair or out of range. -/
def scalar? (code : Nat) : Option Char :=
  if code < 0xD800 ∨ (0xDFFF < code ∧ code < 0x110000) then some (Char.ofNat code) else none

/-- The character of hexadecimal digits. -/
def coded? (digits : List Char) : Option Char :=
  (Json.hexDigits? digits).bind scalar?

/-- The character behind a backslash, unless a code follows it. -/
def escaped? (c : Char) : Option Char :=
  if c = 'b' then some '\x08'
  else if c = 't' then some '\t'
  else if c = 'n' then some '\n'
  else if c = 'f' then some '\x0c'
  else if c = 'r' then some '\r'
  else if c = 'e' then some '\x1b'
  else if c = '"' then some '"'
  else if c = '\\' then some '\\'
  else none

/-- Puts a character, if there is one, in front of what a reader read. -/
def consRead (c : Option Char) (read : Option (List Char × List Char)) :
    Option (List Char × List Char) := do
  let c ← c
  let (chars, rest) ← read
  return (c :: chars, rest)

/-- A basic text up to its closing quote. -/
def readBasic : List Char → Option (List Char × List Char)
  | [] => none
  | '"' :: rest => some ([], rest)
  | '\\' :: 'x' :: a :: b :: rest => consRead (coded? [a, b]) (readBasic rest)
  | '\\' :: 'u' :: a :: b :: c :: d :: rest => consRead (coded? [a, b, c, d]) (readBasic rest)
  | '\\' :: 'U' :: a :: b :: c :: d :: e :: f :: g :: h :: rest =>
      consRead (coded? [a, b, c, d, e, f, g, h]) (readBasic rest)
  | '\\' :: c :: rest => consRead (escaped? c) (readBasic rest)
  | c :: rest => if isPlain c && c != '\\' then consRead (some c) (readBasic rest) else none

/-- A literal text up to its closing apostrophe. -/
def readLiteral : List Char → Option (List Char × List Char)
  | [] => none
  | '\'' :: rest => some ([], rest)
  | c :: rest => if isPlain c then consRead (some c) (readLiteral rest) else none

/-- Whether nothing but blanks stands before the end of the line. -/
def endsLine (text : List Char) : Bool :=
  match skipBlanks text with
  | '\n' :: _ => true
  | '\r' :: '\n' :: _ => true
  | _ => false

/-- A basic text of several lines up to its closing quotes. Behind a backslash at the end of a line,
blanks and ends of lines are skipped; the flag tells whether that is going on. -/
def readLongBasic : Bool → List Char → Option (List Char × List Char)
  | _, [] => none
  | _, '"' :: '"' :: '"' :: '"' :: '"' :: rest => some (['"', '"'], rest)
  | _, '"' :: '"' :: '"' :: '"' :: rest => some (['"'], rest)
  | _, '"' :: '"' :: '"' :: rest => some ([], rest)
  | true, '\r' :: '\n' :: rest => readLongBasic true rest
  | false, '\r' :: '\n' :: rest =>
      consRead (some '\r') (consRead (some '\n') (readLongBasic false rest))
  | _, '\\' :: 'x' :: a :: b :: rest => consRead (coded? [a, b]) (readLongBasic false rest)
  | _, '\\' :: 'u' :: a :: b :: c :: d :: rest =>
      consRead (coded? [a, b, c, d]) (readLongBasic false rest)
  | _, '\\' :: 'U' :: a :: b :: c :: d :: e :: f :: g :: h :: rest =>
      consRead (coded? [a, b, c, d, e, f, g, h]) (readLongBasic false rest)
  | skipping, c :: rest =>
      if skipping && (isBlank c || c == '\n') then readLongBasic true rest
      else if c == '\\' then
        if endsLine rest then readLongBasic true rest
        else
          match rest with
          | [] => none
          | plain :: rest => consRead (escaped? plain) (readLongBasic false rest)
      else if isPlain c || c == '\n' then consRead (some c) (readLongBasic false rest)
      else none

/-- A literal text of several lines up to its closing apostrophes. -/
def readLongLiteral : List Char → Option (List Char × List Char)
  | [] => none
  | '\'' :: '\'' :: '\'' :: '\'' :: '\'' :: rest => some (['\'', '\''], rest)
  | '\'' :: '\'' :: '\'' :: '\'' :: rest => some (['\''], rest)
  | '\'' :: '\'' :: '\'' :: rest => some ([], rest)
  | '\r' :: '\n' :: rest => consRead (some '\r') (consRead (some '\n') (readLongLiteral rest))
  | c :: rest =>
      if isPlain c || c == '\n' then consRead (some c) (readLongLiteral rest) else none

/-- Drops the end of a line right behind the opening quotes. -/
def dropFirstEnd : List Char → List Char
  | '\n' :: rest => rest
  | '\r' :: '\n' :: rest => rest
  | text => text

/-- The text at the front, if a quote or an apostrophe starts one. -/
def readText? : List Char → Option (Option (List Char × List Char))
  | '"' :: '"' :: '"' :: rest => some (readLongBasic false (dropFirstEnd rest))
  | '\'' :: '\'' :: '\'' :: rest => some (readLongLiteral (dropFirstEnd rest))
  | '"' :: rest => some (readBasic rest)
  | '\'' :: rest => some (readLiteral rest)
  | _ => none

/-- Whether a character may stand in a key without quotes. -/
def isBare (c : Char) : Bool :=
  c.isAlphanum || c == '-' || c == '_'

/-- One part of a key. -/
def readKeyPart : List Char → Option (String × List Char)
  | '"' :: rest => (readBasic rest).map fun (chars, rest) => (String.ofList chars, rest)
  | '\'' :: rest => (readLiteral rest).map fun (chars, rest) => (String.ofList chars, rest)
  | text =>
      let chars := text.takeWhile isBare
      if chars.isEmpty then none else some (String.ofList chars, text.dropWhile isBare)

/-- A key of parts with dots between them, and blanks around the dots. -/
def readKey : Nat → List Char → Option (List String × List Char)
  | 0, _ => none
  | fuel + 1, text => do
      let (part, rest) ← readKeyPart text
      match skipBlanks rest with
      | '.' :: rest =>
          (readKey fuel (skipBlanks rest)).map fun (parts, rest) => (part :: parts, rest)
      | rest => return ([part], rest)

/-- The digits at the front in a base, where an underscore may stand between two of them. -/
def readDigits (base : Nat) : List Char → Option (List Nat × List Char)
  | [] => none
  | c :: rest =>
      match (Json.hexDigit? c).filter fun value => value < base with
      | none => none
      | some value =>
          match rest with
          | '_' :: more => (readDigits base more).map fun (values, rest) => (value :: values, rest)
          | rest =>
              match readDigits base rest with
              | some (values, left) => some (value :: values, left)
              | none => some ([value], rest)

/-- The number that digits spell in a base. -/
def valueOf (base : Nat) (digits : List Nat) : Nat :=
  digits.foldl (fun value digit => value * base + digit) 0

/-- An integer without a sign in a base. -/
def readInBase (base : Nat) (text : List Char) : Option (Int × List Char) :=
  (readDigits base text).map fun (digits, rest) => ((valueOf base digits : Int), rest)

/-- A decimal integer without its sign; no zero stands in front of other digits. -/
def readDecimal : List Char → Option (Int × List Char)
  | '0' :: c :: rest => if c == '_' || c.isDigit then none else some (0, c :: rest)
  | text => readInBase 10 text

def readInteger : List Char → Option (Int × List Char)
  | '0' :: 'x' :: rest => readInBase 16 rest
  | '0' :: 'o' :: rest => readInBase 8 rest
  | '0' :: 'b' :: rest => readInBase 2 rest
  | '+' :: rest => readDecimal rest
  | '-' :: rest => (readDecimal rest).map fun (value, rest) => (-value, rest)
  | text => readDecimal text

mutual

/-- The value at the front. -/
def readValue : Nat → List Char → Option (Value × List Char)
  | 0, _ => none
  | fuel + 1, text =>
      match readText? text with
      | some read => read.map fun (chars, rest) => (.text (String.ofList chars), rest)
      | none =>
          match text with
          | '[' :: rest => (readItems fuel rest).map fun (items, rest) => (.list items, rest)
          | '\x7b' :: rest =>
              (readEntries fuel [] rest).map fun (entries, rest) => (.table .inline entries, rest)
          | text => (readInteger text).map fun (value, rest) => (.integer value, rest)

/-- The items of a list up to the closing bracket. -/
def readItems : Nat → List Char → Option (List Value × List Char)
  | 0, _ => none
  | fuel + 1, text => do
      match ← skipSpace false text with
      | ']' :: rest => return ([], rest)
      | rest =>
          let (item, rest) ← readValue fuel rest
          match ← skipSpace false rest with
          | ',' :: rest =>
              (readItems fuel rest).map fun (items, rest) => (item :: items, rest)
          | ']' :: rest => return ([item], rest)
          | _ => none

/-- The entries of an inline table up to the closing brace, added to the given ones. Lines may end,
and comments may stand, on both sides of each equals sign and of each comma. -/
def readEntries : Nat → Entries → List Char → Option (Entries × List Char)
  | 0, _, _ => none
  | fuel + 1, entries, text => do
      match ← skipSpace false text with
      | '\x7d' :: rest => return (entries, rest)
      | rest =>
          let (key, rest) ← readKey fuel rest
          match ← skipSpace false rest with
          | '=' :: rest =>
              let rest ← skipSpace false rest
              let (value, rest) ← readValue fuel rest
              let entries ← entries.define? value key
              match ← skipSpace false rest with
              | ',' :: rest => readEntries fuel entries rest
              | '\x7d' :: rest => return (entries, rest)
              | _ => none
          | _ => none

end

/-- A key, an equals sign and a value to the end of the line. -/
def readAssignment (fuel : Nat) (text : List Char) :
    Option (List String × Value × List Char) := do
  let (key, rest) ← readKey fuel text
  match skipBlanks rest with
  | '=' :: rest =>
      let (value, rest) ← readValue fuel (skipBlanks rest)
      let rest ← endLine rest
      return (key, value, rest)
  | _ => none

/-- A header behind its opening bracket to the end of the line. -/
def readHeader (fuel : Nat) (text : List Char) : Option (List String × List Char) := do
  let (key, rest) ← readKey fuel (skipBlanks text)
  match rest with
  | ']' :: rest =>
      let rest ← endLine rest
      return (key, rest)
  | _ => none

/-- Reads lines below the header at a path and adds them to a document. -/
def readLines : Nat → List String → Entries → List Char → Option Entries
  | 0, _, _, _ => none
  | fuel + 1, path, document, text => do
      match ← skipSpace false text with
      | [] => return document
      | '[' :: rest =>
          let (key, rest) ← readHeader fuel rest
          let document ← document.openTable? key
          readLines fuel key document rest
      | rest =>
          let (key, value, rest) ← readAssignment fuel rest
          let document ← document.within? (fun entries => entries.define? value key) path
          readLines fuel path document rest

/-- Drops a byte order mark. -/
def dropMark : List Char → List Char
  | '\ufeff' :: rest => rest
  | text => text

/-- The table that a document holds. Two steps of fuel for each character are enough, because every
second nested call takes at least one character. -/
def read (document : String) : Option Entries :=
  let text := dropMark document.toList
  readLines (2 * text.length + 2) [] [] text

end KeysetPaging.Toml
