import KeysetPaging.Proofs.Text.Join
import KeysetPaging.Shape.Value

/-!
# Separators in the texts of values

The texts of numbers, truth values and named choices hold no character that escaping changes, so the
text of every value but a list is the escape of some text. What holds of every escape and passes to
joined texts therefore holds of the texts of all values; so no value's text holds an ampersand or an
equals sign.
-/

namespace KeysetPaging.Shape

/-- Whether escaping leaves a character alone. -/
def isPlain (c : Char) : Bool :=
  c != '%' && c != '&' && c != ',' && c != '='

theorem escapeChar_of_isPlain {c : Char} (plain : isPlain c = true) : escapeChar c = [c] := by
  simp only [isPlain, Bool.and_eq_true, bne_iff_ne, ne_eq] at plain
  obtain ⟨⟨⟨percent, ampersand⟩, comma⟩, equals⟩ := plain
  rw [escapeChar, if_neg percent, if_neg ampersand, if_neg comma, if_neg equals]

theorem escape_of_isPlain {text : List Char} (plain : ∀ c ∈ text, isPlain c = true) :
    escape text = text := by
  induction text with
  | nil => rfl
  | cons c rest ih =>
      have head := escapeChar_of_isPlain (plain c List.mem_cons_self)
      have tail := ih fun d member => plain d (List.mem_cons_of_mem c member)
      unfold escape at tail ⊢
      rw [List.flatMap_cons, head, tail, List.singleton_append]

theorem isPlain_of_isDigit {c : Char} (digit : c.isDigit = true) : isPlain c = true := by
  simp only [isPlain, Bool.and_eq_true, bne_iff_ne, ne_eq]
  refine ⟨⟨⟨?_, ?_⟩, ?_⟩, ?_⟩ <;>
    · rintro rfl
      exact absurd digit (by decide)

theorem isPlain_of_mem_toDigits {number : Nat} {c : Char} (member : c ∈ Nat.toDigits 10 number) :
    isPlain c = true :=
  isPlain_of_isDigit (Nat.isDigit_of_mem_toDigits (by decide) (by decide) member)

theorem isPlain_of_mem_integerText {number : Int} {c : Char}
    (member : c ∈ Text.Numeral.integerText number) : isPlain c = true := by
  unfold Text.Numeral.integerText at member
  split at member
  · rcases List.mem_cons.mp member with rfl | member
    · rfl
    · exact isPlain_of_mem_toDigits member
  · exact isPlain_of_mem_toDigits member

theorem isPlain_of_mem_positional {digits : List Char} (plain : ∀ c ∈ digits, isPlain c = true)
    {whole : Int} {c : Char} (member : c ∈ Decimal.positional digits whole) : isPlain c = true := by
  unfold Decimal.positional at member
  split at member
  · simp only [List.mem_cons, List.mem_append, List.mem_replicate] at member
    rcases member with rfl | rfl | ⟨_, rfl⟩ | member
    · rfl
    · rfl
    · rfl
    · exact plain c member
  · simp only [List.mem_append, List.mem_replicate, List.mem_cons] at member
    rcases member with (member | ⟨_, rfl⟩) | rfl | member
    · exact plain c (List.mem_of_mem_take member)
    · rfl
    · rfl
    · split at member
      · rw [List.mem_singleton.mp member]
        rfl
      · exact plain c (List.mem_of_mem_drop member)

theorem isPlain_of_mem_exponential {digits : List Char} (plain : ∀ c ∈ digits, isPlain c = true)
    {leading : Int} {c : Char} (member : c ∈ Decimal.exponential digits leading) :
    isPlain c = true := by
  simp only [Decimal.exponential, List.mem_append, List.mem_cons] at member
  rcases member with (member | member) | rfl | member
  · exact plain c (List.mem_of_mem_take member)
  · split at member
    · cases member
    · rcases List.mem_cons.mp member with rfl | member
      · rfl
      · exact plain c (List.mem_of_mem_drop member)
  · rfl
  · exact isPlain_of_mem_integerText member

theorem isPlain_of_mem_layoutText {layout : Decimal.Layout} {number : Decimal.Scientific} {c : Char}
    (member : c ∈ layout.text number) : isPlain c = true := by
  have digits : ∀ d ∈ Nat.toDigits 10 number.digits, isPlain d = true :=
    fun _ => isPlain_of_mem_toDigits
  simp only [Decimal.Layout.text] at member
  split at member
  · exact isPlain_of_mem_positional digits member
  · exact isPlain_of_mem_exponential digits member

theorem isPlain_of_mem_magnitudeText {layout : Decimal.Layout} {magnitude : Decimal.Magnitude}
    {c : Char} (member : c ∈ magnitude.text layout) : isPlain c = true := by
  cases magnitude with
  | notANumber => exact List.all_eq_true.mp (show ['N', 'a', 'N'].all isPlain = true by decide) c member
  | infinite => exact List.all_eq_true.mp (show ['i', 'n', 'f'].all isPlain = true by decide) c member
  | zero => exact List.all_eq_true.mp (show ['0', '.', '0'].all isPlain = true by decide) c member
  | finite number => exact isPlain_of_mem_layoutText member

theorem isPlain_of_mem_formatText {format : Decimal.Format} {layout : Decimal.Layout} {bits : Nat}
    {c : Char} (member : c ∈ format.text layout bits) : isPlain c = true := by
  unfold Decimal.Format.text at member
  split at member
  · exact isPlain_of_mem_magnitudeText member
  · split at member
    · rcases List.mem_cons.mp member with rfl | member
      · rfl
      · exact isPlain_of_mem_magnitudeText member
    · exact isPlain_of_mem_magnitudeText member

theorem isPlain_of_mem_direction {direction : Direction} {c : Char}
    (member : c ∈ direction.label.toList) : isPlain c = true := by
  refine List.all_eq_true.mp ?_ c member
  cases direction <;> decide

theorem isPlain_of_mem_demand {demand : Demand} {c : Char} (member : c ∈ demand.label.toList) :
    isPlain c = true := by
  refine List.all_eq_true.mp ?_ c member
  cases demand <;> decide

theorem isPlain_of_mem_field {field : StandardField} {c : Char} (member : c ∈ field.name.toList) :
    isPlain c = true := by
  refine List.all_eq_true.mp ?_ c member
  cases field <;> decide

/-- Whether a value is a list once it is found to be present. -/
def Value.isList : Value → Bool
  | .present value => value.isList
  | .list _ => true
  | _ => false

/-- The text of a value that is not a list is the escape of some text. -/
theorem Value.exists_escape {value : Value} (single : value.isList = false) {text : List Char}
    (present : value.text? = some text) : ∃ raw, text = escape raw := by
  have ofPlain : (∀ c ∈ text, isPlain c = true) → ∃ raw, text = escape raw :=
    fun plain => ⟨text, (escape_of_isPlain plain).symm⟩
  fun_induction Value.isList value with
  | case1 value ih =>
      rw [Value.text?] at present
      exact ih single present
  | case2 elements => cases single
  | case3 value notPresent notList =>
      cases value with
      | integer value =>
          rw [Value.text?, Option.some.injEq] at present
          exact ofPlain fun c member => isPlain_of_mem_integerText (present ▸ member)
      | truth value =>
          rw [Value.text?, Option.some.injEq] at present
          subst present
          refine ofPlain (List.all_eq_true.mp ?_)
          cases value <;> decide
      | text value => exact ⟨value.toList, by simpa [Value.text?] using present.symm⟩
      | character value =>
          exact ⟨[value], by simpa [Value.text?, escape] using present.symm⟩
      | single bits =>
          rw [Value.text?, Option.some.injEq] at present
          exact ofPlain fun c member => isPlain_of_mem_formatText (present ▸ member)
      | double bits =>
          rw [Value.text?, Option.some.injEq] at present
          exact ofPlain fun c member => isPlain_of_mem_formatText (present ▸ member)
      | direction value =>
          rw [Value.text?, Option.some.injEq] at present
          exact ofPlain fun c member => isPlain_of_mem_direction (present ▸ member)
      | demand value =>
          rw [Value.text?, Option.some.injEq] at present
          exact ofPlain fun c member => isPlain_of_mem_demand (present ▸ member)
      | field value =>
          rw [Value.text?, Option.some.injEq] at present
          exact ofPlain fun c member => isPlain_of_mem_field (present ▸ member)
      | absent => simp [Value.text?] at present
      | present value => exact absurd rfl (notPresent value)
      | list elements => exact absurd rfl (notList elements)

mutual

/-- What holds of every escape, and of texts joined by commas if it holds of each of them, holds of
the text of every value. -/
theorem Value.text_induction {motive : List Char → Prop} (escaped : ∀ raw, motive (escape raw))
    (joined : ∀ texts, (∀ text ∈ texts, motive text) → motive (Text.join ',' texts)) :
    (value : Value) → {text : List Char} → value.text? = some text → motive text
  | value, _, found => by
      cases value with
      | present value =>
          rw [Value.text?] at found
          exact Value.text_induction escaped joined value found
      | list elements =>
          rw [Value.text?, Option.some.injEq] at found
          subst found
          exact joined _ (Value.texts_induction escaped joined elements)
      | _ =>
          obtain ⟨raw, rfl⟩ := Value.exists_escape rfl found
          exact escaped raw

theorem Value.texts_induction {motive : List Char → Prop} (escaped : ∀ raw, motive (escape raw))
    (joined : ∀ texts, (∀ text ∈ texts, motive text) → motive (Text.join ',' texts)) :
    (elements : List Value) → ∀ text ∈ Value.texts elements, motive text
  | [], _, inside => by simp [Value.texts] at inside
  | element :: rest, part, inside => by
      rw [Value.texts, List.mem_cons] at inside
      rcases inside with rfl | inside
      · cases found : element.text? with
        -- An absent element has the empty text, which is the escape of itself.
        | none => exact escaped []
        | some part => exact Value.text_induction escaped joined element found
      · exact Value.texts_induction escaped joined rest part inside

end

/-- No ampersand and no equals sign occurs in the text of a value. -/
theorem Value.not_mem_text {separator : Char} (separates : separator = '&' ∨ separator = '=')
    (value : Value) {text : List Char} (found : value.text? = some text) : separator ∉ text := by
  refine Value.text_induction (motive := fun text => separator ∉ text) ?_ ?_ value found
  · exact not_mem_escape (separates.imp_right Or.inr)
  · intro texts free member
    rcases Text.mem_join member with comma | ⟨part, inside, member⟩
    · rcases separates with rfl | rfl <;> exact absurd comma (by decide)
    · exact free part inside member

end KeysetPaging.Shape
