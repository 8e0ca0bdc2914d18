import KeysetPaging.Json.Printer
import KeysetPaging.Json.Reader
import Mathlib.Tactic.SplitIfs

/-!
# Texts inside JSON

A character inside a JSON text is spelled as itself, as a backslash and one mark, or by the four digits
of its code. The printer spells each character in one of these ways, and the reader takes each of them
for the character that it spells, so a printed text is read back and nothing behind it is touched.
-/

namespace KeysetPaging.Json

/-- The ways in which a character is spelled. Quotes, backslashes and control characters do not stand
for themselves. -/
inductive Spells (c : Char) : List Char → Prop where
  | plain (notQuote : c ≠ '"') (notBackslash : c ≠ '\\') (printable : 32 ≤ c.toNat) : Spells c [c]
  | short {mark : Char} (notCode : mark ≠ 'u') (stands : escaped? mark = some c) :
      Spells c ['\\', mark]
  | coded (control : c.toNat < 32) : Spells c ('\\' :: 'u' :: '0' :: '0' :: hexPair c.toNat)

theorem spells_printChar (c : Char) : Spells c (printChar c) := by
  unfold printChar
  split_ifs with quote backslash backspace formFeed newline carriageReturn tab control
  · exact .short (by decide) (by rw [quote]; rfl)
  · exact .short (by decide) (by rw [backslash]; rfl)
  · exact .short (by decide) (by rw [backspace]; rfl)
  · exact .short (by decide) (by rw [formFeed]; rfl)
  · exact .short (by decide) (by rw [newline]; rfl)
  · exact .short (by decide) (by rw [carriageReturn]; rfl)
  · exact .short (by decide) (by rw [tab]; rfl)
  · exact .coded control
  · exact .plain quote backslash (Nat.le_of_not_lt control)

theorem hexDigits?_hexPair :
    ∀ code < 32, hexDigits? ('0' :: '0' :: hexPair code) = some code := by
  decide

/-- The code of a control character is no half of a surrogate pair. -/
theorem consCode_of_control {code : Nat} (control : code < 32) (letters : List Letter) :
    consCode code letters = .character (Char.ofNat code) :: letters := by
  have notLeading : isLeading code = false := by
    simp only [isLeading, Bool.and_eq_false_iff, decide_eq_false_iff_not]
    omega
  have notTrailing : isTrailing code = false := by
    simp only [isTrailing, Bool.and_eq_false_iff, decide_eq_false_iff_not]
    omega
  simp [consCode, notLeading, notTrailing]

/-- However a character is spelled, it is read in front of what is read behind it. -/
theorem Spells.readLetters_append {c : Char} {spelling : List Char} (spells : Spells c spelling)
    {text left : List Char} {letters : List Letter} (read : readLetters text = some (letters, left)) :
    readLetters (spelling ++ text) = some (.character c :: letters, left) := by
  cases spells with
  | plain notQuote notBackslash printable =>
      have allowed : ¬(decide (c.toNat < 32) || c == '\\') = true := by
        simp [notBackslash, Nat.not_lt.mpr printable]
      rw [List.singleton_append, readLetters, if_neg allowed, read]
      · rfl
      · exact notQuote
      · exact fun _ _ _ _ _ same => absurd same notBackslash
      · exact fun _ _ same => absurd same notBackslash
  | short notCode stands =>
      rw [List.cons_append, List.singleton_append, readLetters, stands, read]
      · rfl
      · exact fun _ _ _ _ _ same => absurd same notCode
  | coded control =>
      have code := hexDigits?_hexPair c.toNat control
      unfold hexPair at code ⊢
      simp only [List.cons_append, List.nil_append, readLetters, code, read, Option.bind_eq_bind,
        Option.bind_some, Option.pure_def, consCode_of_control control, Char.ofNat_toNat]

theorem printLetters_letters (text : String) :
    printLetters (letters text) = '"' :: text.toList.flatMap printChar ++ ['"'] := by
  simp [printLetters, letters, List.flatMap_map, printLetter]

/-- A printed text is read back from behind its opening quote. -/
theorem readLetters_flatMap_printChar (chars rest : List Char) :
    readLetters (chars.flatMap printChar ++ '"' :: rest) = some (chars.map .character, rest) := by
  induction chars with
  | nil => rw [List.flatMap_nil, List.nil_append, readLetters, List.map_nil]
  | cons c chars ih =>
      rw [List.flatMap_cons, List.append_assoc, List.map_cons]
      exact (spells_printChar c).readLetters_append ih

end KeysetPaging.Json
