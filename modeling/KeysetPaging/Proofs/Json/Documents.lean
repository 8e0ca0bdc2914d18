import KeysetPaging.Json.Form
import KeysetPaging.Proofs.Json.Letters
import KeysetPaging.Proofs.Text.Join
import KeysetPaging.Proofs.Text.Numeral

/-!
# Printed documents

A value whose texts are strings and whose numbers are integers is read back from its printed text: with
one step of fuel for each character of the text the reader takes the value off the front, whatever stands
behind it, as long as a number at the end of the value cannot go on there. A reader of items or members
needs a step more than the characters that it takes, which the bracket in front of them pays for.
-/

namespace KeysetPaging.Json

/-- Whether a number in front of a text ends where the text begins. -/
def EndsNumber (text : List Char) : Prop :=
  ∀ c ∈ text.head?, c.isDigit = false ∧ c ≠ '.' ∧ c ≠ 'e' ∧ c ≠ 'E'

theorem endsNumber_nil : EndsNumber [] := nofun

theorem endsNumber_cons (c : Char) (separates : c = ',' ∨ c = ']' ∨ c = '\x7d') (rest : List Char) :
    EndsNumber (c :: rest) := by
  intro head found
  obtain rfl := Option.some.inj found
  rcases separates with rfl | rfl | rfl <;> decide

section Numbers

variable {rest : List Char}

theorem readDigits_toDigits (ends : EndsNumber rest) (number : Nat) :
    readDigits (Nat.toDigits 10 number ++ rest) = some (Nat.toDigits 10 number, rest) := by
  have digits : ∀ c ∈ Nat.toDigits 10 number, c.isDigit = true := fun _ =>
    Text.Numeral.isDigit_of_mem_toDigits
  have stops : rest.takeWhile Char.isDigit = [] ∧ rest.dropWhile Char.isDigit = rest := by
    cases rest with
    | nil => exact ⟨rfl, rfl⟩
    | cons c rest => simp [(ends c rfl).1]
  have nonempty : (Nat.toDigits 10 number).isEmpty = false := by
    simp [List.isEmpty_eq_false_iff]
  rw [readDigits, List.takeWhile_append_of_pos digits, List.dropWhile_append_of_pos digits, stops.1,
    stops.2, List.append_nil, nonempty]
  rfl

theorem readFraction_of_ends (ends : EndsNumber rest) : readFraction rest = some ([], rest) := by
  unfold readFraction
  split
  · exact absurd rfl (ends '.' rfl).2.1
  · rfl

theorem readExponent_of_ends (ends : EndsNumber rest) : readExponent rest = some ([], rest) := by
  unfold readExponent
  split
  · exact absurd rfl (ends 'e' rfl).2.2.1
  · exact absurd rfl (ends 'E' rfl).2.2.2
  · rfl

/-- Digits are read as an integer, unless a minus sign stands in front of zero. -/
theorem readMagnitude_toDigits (ends : EndsNumber rest) (negative : Bool) {number : Nat}
    (nonzero : negative = true → number ≠ 0) :
    readMagnitude negative (Nat.toDigits 10 number ++ rest) =
      some (.integer (if negative then -(number : Int) else number), rest) := by
  have leading : ¬((Nat.toDigits 10 number).head? == some '0' &&
      decide (1 < (Nat.toDigits 10 number).length)) = true := by
    rcases Nat.eq_zero_or_pos number with rfl | positive
    · decide
    · simp [Text.Numeral.head?_toDigits_ne_zero positive]
  have whole : (([] : List Char).isEmpty && ([] : List Char).isEmpty &&
      !(negative && number == 0)) = true := by
    cases negative with
    | false => rfl
    | true => simp [nonzero rfl]
  simp only [readMagnitude, readDigits_toDigits ends, readFraction_of_ends ends,
    readExponent_of_ends ends, Option.bind_eq_bind, Option.bind_some, Option.pure_def, if_neg leading,
    Nat.ofDigitChars_ten_toDigits, if_pos whole]

theorem readNumber_integerText (ends : EndsNumber rest) (value : Int) :
    readNumber (Text.Numeral.integerText value ++ rest) = some (.integer value, rest) := by
  unfold Text.Numeral.integerText
  split
  · rename_i negative
    have magnitude : -(value.natAbs : Int) = value := by omega
    rw [List.cons_append, readNumber, readMagnitude_toDigits ends true fun _ => by omega, if_pos rfl,
      magnitude]
  · have magnitude : (value.natAbs : Int) = value := by omega
    obtain ⟨c, digits, shape, digit⟩ := Text.Numeral.exists_toDigits value.natAbs
    have unsigned : ∀ tail, Nat.toDigits 10 value.natAbs ++ rest = '-' :: tail → False := by
      intro tail same
      rw [shape, List.cons_append] at same
      rw [(List.cons.inj same).1] at digit
      cases digit
    rw [readNumber.eq_2 _ unsigned, readMagnitude_toDigits ends false nofun, if_neg Bool.false_ne_true,
      magnitude]

end Numbers

/-- Values whose texts are strings and whose numbers are integers. -/
inductive Plain : Json → Prop where
  | null : Plain .null
  | truth (value : Bool) : Plain (.truth value)
  | integer (value : Int) : Plain (.ofInt value)
  | text (value : String) : Plain (.ofString value)
  | array {items : List Json} (plain : ∀ item ∈ items, Plain item) : Plain (.array items)
  | record {members : List (String × Json)} (plain : ∀ member ∈ members, Plain member.2) :
      Plain (JsonForm.record members)

/-- Whether a text starts like an item of an array: neither with a blank nor with the end of the
array. -/
def StartsItem (text : List Char) : Prop :=
  ∃ c rest, text = c :: rest ∧ isBlank c = false ∧ c ≠ ']'

theorem StartsItem.append {text : List Char} (starts : StartsItem text) (rest : List Char) :
    StartsItem (text ++ rest) := by
  obtain ⟨c, tail, rfl, visible, other⟩ := starts
  exact ⟨c, tail ++ rest, rfl, visible, other⟩

theorem skipBlanks_cons {c : Char} (visible : isBlank c = false) (rest : List Char) :
    skipBlanks (c :: rest) = c :: rest :=
  List.dropWhile_cons_of_neg (by simp [visible])

/-- The text of an integer starts with a minus sign or a digit. -/
theorem exists_integerText (value : Int) : ∃ c rest,
    Text.Numeral.integerText value = c :: rest ∧ isBlank c = false ∧ (c = '-' ∨ c.isDigit = true) := by
  unfold Text.Numeral.integerText
  split
  · exact ⟨'-', _, rfl, rfl, Or.inl rfl⟩
  · obtain ⟨c, digits, shape, digit⟩ := Text.Numeral.exists_toDigits value.natAbs
    refine ⟨c, digits, shape, Bool.eq_false_iff.mpr fun blank => ?_, Or.inr digit⟩
    simp only [isBlank, Bool.or_eq_true, beq_iff_eq] at blank
    rcases blank with ((rfl | rfl) | rfl) | rfl <;> cases digit

theorem Plain.startsItem {json : Json} (plain : Plain json) : StartsItem json.print := by
  cases plain with
  | null => exact ⟨'n', _, by rw [print], rfl, by decide⟩
  | truth value => cases value <;> exact ⟨_, _, by rw [print], rfl, by decide⟩
  | integer value =>
      obtain ⟨c, rest, spelled, visible, starts⟩ := exists_integerText value
      refine ⟨c, rest, by rw [ofInt, print, printNumber, spelled], visible, ?_⟩
      rintro rfl
      rcases starts with starts | starts <;> cases starts
  | text value =>
      exact ⟨'"', _, by rw [ofString, print, printLetters_letters, List.cons_append], rfl, by decide⟩
  | array plain => exact ⟨'[', _, by rw [print, List.cons_append], rfl, by decide⟩
  | record plain =>
      exact ⟨'\x7b', _, by rw [JsonForm.record, print, List.cons_append], rfl, by decide⟩

/-! What the reader does with a text whose parts are known. -/

section Steps

variable {fuel : Nat} {text rest : List Char} {json : Json} {items : List Json}
  {members : List (List Letter × Json)}

theorem readValue_integerText (ends : EndsNumber rest) (value : Int) :
    readValue (fuel + 1) (Text.Numeral.integerText value ++ rest) = some (.ofInt value, rest) := by
  obtain ⟨c, tail, spelled, visible, starts⟩ := exists_integerText value
  have number := readNumber_integerText ends value
  rw [spelled, List.cons_append] at number ⊢
  unfold readValue
  rw [skipBlanks_cons visible]
  split
  case h_7 =>
    rw [number]
    rfl
  all_goals
    rename_i same
    rw [(List.cons.inj same).1] at starts
    rcases starts with starts | starts <;> cases starts

theorem readValue_text (value : String) :
    readValue (fuel + 1) (printLetters (letters value) ++ rest) = some (.ofString value, rest) := by
  have read := readLetters_flatMap_printChar value.toList rest
  rw [printLetters_letters, List.cons_append, List.cons_append, List.append_assoc,
    List.singleton_append, readValue, skipBlanks_cons rfl]
  simp only [read, Option.map_some]
  rfl

theorem readValue_array (starts : StartsItem text) (read : readItems fuel text = some (items, rest)) :
    readValue (fuel + 1) ('[' :: text) = some (.array items, rest) := by
  obtain ⟨c, tail, rfl, visible, other⟩ := starts
  rw [readValue, skipBlanks_cons rfl]
  simp only [skipBlanks_cons visible]
  split
  · rename_i same
    exact absurd (List.cons.inj same).1 other
  · rw [read, Option.map_some]

theorem readValue_object (read : readMembers fuel ('"' :: text) = some (members, rest)) :
    readValue (fuel + 1) ('\x7b' :: '"' :: text) = some (.object members, rest) := by
  rw [readValue, skipBlanks_cons rfl]
  simp only [skipBlanks_cons (show isBlank '"' = false from rfl)]
  split
  · rename_i same
    exact absurd (List.cons.inj same).1 (by decide)
  · rw [read, Option.map_some]

theorem readItems_last (item : readValue fuel text = some (json, ']' :: rest)) :
    readItems (fuel + 1) text = some ([json], rest) := by
  rw [readItems, item]
  rfl

theorem readItems_more {more : List Char} (item : readValue fuel text = some (json, ',' :: more))
    (read : readItems fuel more = some (items, rest)) :
    readItems (fuel + 1) text = some (json :: items, rest) := by
  rw [readItems, item]
  simp only [Option.bind_eq_bind, Option.bind_some, skipBlanks_cons (show isBlank ',' = false from rfl),
    read, Option.map_some]

/-- Behind a name the reader takes a value, and more members behind a comma. -/
theorem readMembers_named (name : String) (text : List Char) :
    readMembers (fuel + 1) (printLetters (letters name) ++ ':' :: text) =
      (readValue fuel text).bind fun value =>
        match skipBlanks value.2 with
        | ',' :: rest =>
            (readMembers fuel rest).map fun more => ((letters name, value.1) :: more.1, more.2)
        | '\x7d' :: rest => some ([(letters name, value.1)], rest)
        | _ => none := by
  have read := readLetters_flatMap_printChar name.toList (':' :: text)
  rw [printLetters_letters, List.cons_append, List.cons_append, List.append_assoc,
    List.singleton_append, readMembers, skipBlanks_cons rfl]
  simp only [read, Option.bind_eq_bind, Option.bind_some,
    skipBlanks_cons (show isBlank ':' = false from rfl)]
  rfl

theorem readMembers_last (name : String) (value : readValue fuel text = some (json, '\x7d' :: rest)) :
    readMembers (fuel + 1) (printLetters (letters name) ++ ':' :: text) =
      some ([(letters name, json)], rest) := by
  rw [readMembers_named, value]
  rfl

theorem readMembers_more (name : String) {more : List Char}
    (value : readValue fuel text = some (json, ',' :: more))
    (read : readMembers fuel more = some (members, rest)) :
    readMembers (fuel + 1) (printLetters (letters name) ++ ':' :: text) =
      some ((letters name, json) :: members, rest) := by
  rw [readMembers_named, value, Option.bind_some]
  simp only [skipBlanks_cons (show isBlank ',' = false from rfl), read, Option.map_some]

end Steps

/-- Whether a value is read back from its printed text, with fuel for each character of the text. -/
def ReadsBack (json : Json) : Prop :=
  ∀ (fuel : Nat) (rest : List Char), json.print.length ≤ fuel → EndsNumber rest →
    readValue fuel (json.print ++ rest) = some (json, rest)

/-- A value that is read back whenever there is a step of fuel. -/
theorem ReadsBack.of_succ {json : Json} (plain : Plain json)
    (read : ∀ fuel rest, json.print.length ≤ fuel + 1 → EndsNumber rest →
      readValue (fuel + 1) (json.print ++ rest) = some (json, rest)) : ReadsBack json := by
  intro fuel rest enough ends
  cases fuel with
  | zero =>
      obtain ⟨c, tail, shape, -⟩ := plain.startsItem
      rw [shape] at enough
      cases enough
  | succ fuel => exact read fuel rest enough ends

theorem readItems_join {items : List Json} (nonempty : items ≠ [])
    (readsBack : ∀ item ∈ items, ReadsBack item) {fuel : Nat} (rest : List Char)
    (enough : (Text.join ',' (printItems items)).length < fuel) :
    readItems fuel (Text.join ',' (printItems items) ++ ']' :: rest) = some (items, rest) := by
  induction items generalizing fuel with
  | nil => exact absurd rfl nonempty
  | cons item others ih =>
      obtain ⟨first, readsBack⟩ := List.forall_mem_cons.mp readsBack
      obtain ⟨fuel, rfl⟩ := Nat.exists_eq_succ_of_ne_zero (Nat.ne_zero_of_lt enough)
      cases others with
      | nil =>
          rw [printItems, printItems, Text.join] at enough ⊢
          exact readItems_last (first _ _ (Nat.le_of_lt_succ enough) (endsNumber_cons ']' (by decide) _))
      | cons next others =>
          rw [printItems, printItems, Text.join, ← printItems] at enough ⊢
          rw [List.length_append, List.length_cons] at enough
          rw [List.append_assoc, List.cons_append]
          refine readItems_more (first _ _ (by omega) (endsNumber_cons ',' (by decide) _)) ?_
          exact ih (List.cons_ne_nil next others) readsBack (by omega)

/-- The text of a member. -/
def printMember (member : String × Json) : List Char :=
  printLetters (letters member.1) ++ ':' :: member.2.print

theorem print_record (members : List (String × Json)) :
    (JsonForm.record members).print =
      '\x7b' :: Text.join ',' (members.map printMember) ++ ['\x7d'] := by
  have printed : ∀ members : List (String × Json),
      printMembers (members.map fun member => (letters member.1, member.2)) =
        members.map printMember := by
    intro members
    induction members with
    | nil => rw [List.map_nil, List.map_nil, printMembers]
    | cons member rest ih => rw [List.map_cons, List.map_cons, printMembers, ih, printMember]
  rw [JsonForm.record, print, printed]

theorem readMembers_join {members : List (String × Json)} (nonempty : members ≠ [])
    (readsBack : ∀ member ∈ members, ReadsBack member.2) {fuel : Nat} (rest : List Char)
    (enough : (Text.join ',' (members.map printMember)).length < fuel) :
    readMembers fuel (Text.join ',' (members.map printMember) ++ '\x7d' :: rest) =
      some (members.map fun member => (letters member.1, member.2), rest) := by
  induction members generalizing fuel with
  | nil => exact absurd rfl nonempty
  | cons member others ih =>
      obtain ⟨first, readsBack⟩ := List.forall_mem_cons.mp readsBack
      obtain ⟨fuel, rfl⟩ := Nat.exists_eq_succ_of_ne_zero (Nat.ne_zero_of_lt enough)
      cases others with
      | nil =>
          rw [List.map_singleton, Text.join, printMember] at enough ⊢
          rw [List.length_append, List.length_cons] at enough
          rw [List.append_assoc, List.cons_append]
          exact readMembers_last _ (first _ _ (by omega) (endsNumber_cons '\x7d' (by decide) _))
      | cons next others =>
          rw [List.map_cons, List.map_cons, Text.join, ← List.map_cons, List.length_append,
            List.length_cons, printMember, List.length_append, List.length_cons] at enough
          rw [List.map_cons, List.map_cons, Text.join, ← List.map_cons, printMember]
          simp only [List.append_assoc, List.cons_append]
          refine readMembers_more _ (first _ _ (by omega) (endsNumber_cons ',' (by decide) _)) ?_
          exact ih (List.cons_ne_nil next others) readsBack (by omega)

theorem startsItem_join {items : List Json} (nonempty : items ≠ [])
    (plain : ∀ item ∈ items, Plain item) : StartsItem (Text.join ',' (printItems items)) := by
  cases items with
  | nil => exact absurd rfl nonempty
  | cons item others =>
      obtain ⟨tail, shape⟩ := Text.exists_join_cons ',' item.print (printItems others)
      rw [printItems, shape]
      exact (plain item List.mem_cons_self).startsItem.append tail

theorem exists_join_printMember {members : List (String × Json)} (nonempty : members ≠ []) :
    ∃ tail, Text.join ',' (members.map printMember) = '"' :: tail := by
  cases members with
  | nil => exact absurd rfl nonempty
  | cons member others =>
      obtain ⟨tail, shape⟩ := Text.exists_join_cons ',' (printMember member) (others.map printMember)
      rw [List.map_cons, shape, printMember, printLetters_letters]
      exact ⟨_, rfl⟩

theorem Plain.readsBack {json : Json} (plain : Plain json) : ReadsBack json := by
  induction plain with
  | null =>
      refine ReadsBack.of_succ .null fun fuel rest enough ends => ?_
      rw [print]
      rfl
  | truth value =>
      refine ReadsBack.of_succ (.truth value) fun fuel rest enough ends => ?_
      cases value <;>
        · rw [print]
          rfl
  | integer value =>
      refine ReadsBack.of_succ (.integer value) fun fuel rest enough ends => ?_
      exact readValue_integerText ends value
  | text value =>
      refine ReadsBack.of_succ (.text value) fun fuel rest enough ends => ?_
      exact readValue_text value
  | @array items plain ih =>
      refine ReadsBack.of_succ (.array plain) fun fuel rest enough ends => ?_
      rw [print] at enough ⊢
      rw [List.cons_append, List.length_cons, List.length_append] at enough
      rw [List.cons_append, List.cons_append, List.append_assoc, List.singleton_append]
      by_cases empty : items = []
      · rw [empty]
        rfl
      · refine readValue_array ((startsItem_join empty plain).append _) ?_
        exact readItems_join empty ih rest (Nat.le_of_succ_le_succ enough)
  | @record members plain ih =>
      refine ReadsBack.of_succ (.record plain) fun fuel rest enough ends => ?_
      rw [print_record] at enough ⊢
      rw [List.cons_append, List.length_cons, List.length_append] at enough
      rw [List.cons_append, List.cons_append, List.append_assoc, List.singleton_append]
      by_cases empty : members = []
      · rw [empty]
        rfl
      · obtain ⟨tail, shape⟩ := exists_join_printMember empty
        have read := readMembers_join empty ih rest (Nat.le_of_succ_le_succ enough)
        rw [shape, List.cons_append] at read ⊢
        exact readValue_object read

/-- A printed document is read back. -/
theorem Plain.read_print {json : Json} (plain : Plain json) : read json.print = some json := by
  have value := plain.readsBack (2 * json.print.length + 2) [] (by omega) endsNumber_nil
  rw [List.append_nil] at value
  rw [read, value]
  rfl

end KeysetPaging.Json
