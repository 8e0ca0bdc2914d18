import KeysetPaging.Proofs.Query.Shape
import KeysetPaging.Proofs.Shape.Separators
import KeysetPaging.Proofs.Sorting
import Mathlib.Data.List.Chain

/-!
# Elements in the texts of values

Whatever separates or escapes in the text of a value comes from how the value is built. Every percent
sign starts an escape, a comma shows that the value is a list or a set, and as long as the elements of
a list are not lists themselves, cutting its text at the commas gives the texts of the elements, one
for each of them. A set is a list of what was put into it, each element once and in front of the next.
-/

namespace KeysetPaging.Shape

/-! ## Percent signs -/

/-- The escapes of the percent sign and of the three separators. -/
def escapes : List (List Char) :=
  [['%', '2', '5'], ['%', '2', '6'], ['%', '2', 'C'], ['%', '3', 'D']]

/-- Every percent sign of a text starts one of the escapes. -/
def PercentsEscape (text : List Char) : Prop :=
  ∀ rest, '%' :: rest <:+ text → ∃ code ∈ escapes, code <+: '%' :: rest

theorem percentsEscape_of_not_mem {text : List Char} (free : '%' ∉ text) : PercentsEscape text :=
  fun _ suffix => absurd (suffix.subset List.mem_cons_self) free

theorem percentsEscape_cons_iff {c : Char} {text : List Char} :
    PercentsEscape (c :: text) ↔
      (c = '%' → ∃ code ∈ escapes, code <+: '%' :: text) ∧ PercentsEscape text := by
  simp only [PercentsEscape, List.suffix_cons_iff, List.cons.injEq]
  constructor
  · intro all
    exact ⟨fun percent => all text (Or.inl ⟨percent.symm, rfl⟩),
      fun rest suffix => all rest (Or.inr suffix)⟩
  · rintro ⟨head, tail⟩ rest (⟨percent, rfl⟩ | suffix)
    · exact head percent.symm
    · exact tail rest suffix

theorem PercentsEscape.append {left right : List Char} (escapesLeft : PercentsEscape left)
    (escapesRight : PercentsEscape right) : PercentsEscape (left ++ right) := by
  induction left with
  | nil => exact escapesRight
  | cons c rest ih =>
      obtain ⟨head, tail⟩ := percentsEscape_cons_iff.mp escapesLeft
      refine percentsEscape_cons_iff.mpr ⟨fun percent => ?_, ih tail⟩
      obtain ⟨code, known, start⟩ := head percent
      exact ⟨code, known, start.trans (List.prefix_append ('%' :: rest) right)⟩

theorem percentsEscape_escapeChar (c : Char) : PercentsEscape (escapeChar c) := by
  have code : ∀ {a b : Char}, ['%', a, b] ∈ escapes → '%' ∉ [a, b] → PercentsEscape ['%', a, b] :=
    fun known free => percentsEscape_cons_iff.mpr
      ⟨fun _ => ⟨_, known, List.prefix_rfl⟩, percentsEscape_of_not_mem free⟩
  unfold escapeChar
  split
  · exact code (by decide) (by decide)
  · rename_i other
    split
    · exact code (by decide) (by decide)
    · split
      · exact code (by decide) (by decide)
      · split
        · exact code (by decide) (by decide)
        · exact percentsEscape_of_not_mem fun member => other (List.mem_singleton.mp member).symm

theorem percentsEscape_escape (text : List Char) : PercentsEscape (escape text) := by
  induction text with
  | nil => exact percentsEscape_of_not_mem List.not_mem_nil
  | cons c rest ih => exact (percentsEscape_escapeChar c).append ih

theorem percentsEscape_join {texts : List (List Char)}
    (parts : ∀ text ∈ texts, PercentsEscape text) : PercentsEscape (Text.join ',' texts) := by
  fun_induction Text.join ',' texts with
  | case1 => exact percentsEscape_of_not_mem List.not_mem_nil
  | case2 text => exact parts text (List.mem_singleton_self text)
  | case3 text next rest ih =>
      rw [List.forall_mem_cons] at parts
      have tail : PercentsEscape (',' :: Text.join ',' (next :: rest)) :=
        percentsEscape_cons_iff.mpr ⟨fun same => absurd same (by decide), ih parts.2⟩
      exact parts.1.append tail

theorem Value.percentsEscape_text (value : Value) {text : List Char}
    (found : value.text? = some text) : PercentsEscape text :=
  Value.text_induction percentsEscape_escape (fun _ => percentsEscape_join) value found

/-! ## Elements -/

/-- The elements of a value that is a list once it is found to be present. -/
def Value.elements? : Value → Option (List Value)
  | .present value => value.elements?
  | .list elements => some elements
  | _ => none

theorem Value.isList_eq_isSome (value : Value) : value.isList = value.elements?.isSome := by
  fun_induction Value.elements? value with
  | case1 value ih => rw [Value.isList, ih]
  | case2 elements => rfl
  | case3 value notPresent notList =>
      cases value with
      | present value => exact absurd rfl (notPresent value)
      | list elements => exact absurd rfl (notList elements)
      | _ => rfl

theorem Value.text?_of_elements? {value : Value} {elements : List Value}
    (listed : value.elements? = some elements) :
    value.text? = some (Text.join ',' (elements.map fun element => element.text?.getD [])) := by
  fun_induction Value.elements? value with
  | case1 value ih => rw [Value.text?, ih listed]
  | case2 elements =>
      obtain rfl := Option.some.inj listed
      rw [Value.text?, Value.texts_eq_map]
  | case3 => cases listed

/-- A comma stands in the text of a list only. -/
theorem Value.elements?_isSome_of_comma_mem {value : Value} {text : List Char}
    (found : value.text? = some text) (comma : ',' ∈ text) : value.elements?.isSome = true := by
  rw [← Value.isList_eq_isSome]
  refine Bool.of_not_eq_false fun single => ?_
  obtain ⟨raw, rfl⟩ := Value.exists_escape single found
  exact not_mem_escape (Or.inr (Or.inl rfl)) raw comma

/-- The text of a list is cut at its commas into the texts of the elements, unless there is no element
or one of them is a list itself. -/
theorem Value.splitOn_text {value : Value} {text : List Char} (found : value.text? = some text)
    {elements : List Value} (listed : value.elements? = some elements) (nonempty : elements ≠ [])
    (single : ∀ element ∈ elements, element.elements? = none) :
    text.splitOn ',' = elements.map fun element => element.text?.getD [] := by
  rw [Value.text?_of_elements? listed, Option.some.injEq] at found
  subst found
  refine Text.splitOn_join ?_ (mt List.map_eq_nil_iff.mp nonempty)
  intro part member comma
  obtain ⟨element, inside, rfl⟩ := List.mem_map.mp member
  cases spelled : element.text? with
  | none => simp [spelled] at comma
  | some text =>
      rw [spelled, Option.getD_some] at comma
      have collection := Value.elements?_isSome_of_comma_mem spelled comma
      rw [single element inside] at collection
      cases collection

/-! ## Sets -/

theorem compareSizes_self (size : Int) : compareSizes size size = .eq := by
  simp [compareSizes, Text.orderingOf]

theorem compareTexts_self (text : String) : compareTexts text text = .eq := by
  simp [compareTexts, Text.orderingOf, Text.not_precedes_iff.mpr (List.lt_irrefl text.toList)]

theorem eq_of_sizes_tie {left right : Int} (notBefore : compareSizes left right ≠ .lt)
    (notAfter : compareSizes right left ≠ .lt) : left = right := by
  have before : ∀ {a b : Int}, compareSizes a b ≠ .lt → ¬a < b := by
    intro a b apart less
    simp [compareSizes, Text.orderingOf, less] at apart
  have := before notBefore
  have := before notAfter
  omega

theorem eq_of_texts_tie {left right : String} (notBefore : compareTexts left right ≠ .lt)
    (notAfter : compareTexts right left ≠ .lt) : left = right := by
  have before : ∀ {a b : String}, compareTexts a b ≠ .lt →
      Text.precedes a.toList b.toList = false := by
    intro a b apart
    refine Bool.eq_false_iff.mpr fun first => ?_
    simp [compareTexts, Text.orderingOf, first] at apart
  exact String.toList_inj.mp (Text.eq_of_tie (before notBefore) (before notAfter))

theorem eq_of_places_tie {left right : Nat} (notBefore : compareSizes left right ≠ .lt)
    (notAfter : compareSizes right left ≠ .lt) : left = right :=
  Int.ofNat_inj.mp (eq_of_sizes_tie notBefore notAfter)

theorem Value.compare_of_rank_ne {left right : Value} (apart : left.rank ≠ right.rank) :
    left.compare right = compareSizes left.rank right.rank := by
  cases left <;> cases right <;> first | rfl | exact absurd rfl apart

mutual

theorem Value.compare_self : (value : Value) → value.compare value = .eq
  | .integer value => compareSizes_self value
  | .truth value => compareSizes_self value.toNat
  | .text value => compareTexts_self value
  | .character value => compareSizes_self value.toNat
  | .single bits => compareSizes_self bits.toNat
  | .double bits => compareSizes_self bits.toNat
  | .direction value => compareTexts_self value.label
  | .demand value => compareTexts_self value.label
  | .field value => compareTexts_self value.name
  | .absent => rfl
  | .present value => Value.compare_self value
  | .list elements => Value.compareLists_self elements

theorem Value.compareLists_self :
    (elements : List Value) → Value.compareLists elements elements = .eq
  | [] => rfl
  | element :: rest => by
      rw [Value.compareLists, Value.compare_self element, Value.compareLists_self rest]
      rfl

end

mutual

/-- Values of which neither comes before the other are the same. -/
theorem Value.eq_of_tie : (left right : Value) → left.compare right ≠ .lt →
    right.compare left ≠ .lt → left = right
  | left, right, notBefore, notAfter => by
      rcases eq_or_ne left.rank right.rank with kinds | kinds
      · -- The kinds agree, which leaves one pair of values for each kind.
        cases left <;> cases right <;> try (cases kinds; done)
        case integer.integer => rw [eq_of_sizes_tie notBefore notAfter]
        case truth.truth left right =>
          have places := eq_of_places_tie notBefore notAfter
          cases left <;> cases right <;> first | rfl | cases places
        case text.text => rw [eq_of_texts_tie notBefore notAfter]
        case character.character =>
          rw [Char.toNat_inj.mp (eq_of_places_tie notBefore notAfter)]
        case single.single => rw [UInt32.toNat_inj.mp (eq_of_places_tie notBefore notAfter)]
        case double.double => rw [UInt64.toNat_inj.mp (eq_of_places_tie notBefore notAfter)]
        case direction.direction =>
          have labels := eq_of_texts_tie notBefore notAfter
          rw [Query.direction_eq_of_label_eq (congrArg String.toList labels)]
        case demand.demand =>
          have labels := eq_of_texts_tie notBefore notAfter
          rw [Query.demand_eq_of_label_eq (congrArg String.toList labels)]
        case field.field left right =>
          have names := eq_of_texts_tie notBefore notAfter
          cases left <;> cases right <;> first | rfl | exact absurd names (by decide)
        case absent.absent => rfl
        case present.present left right => rw [Value.eq_of_tie left right notBefore notAfter]
        case list.list left right => rw [Value.eq_of_lists_tie left right notBefore notAfter]
      · rw [Value.compare_of_rank_ne kinds] at notBefore
        rw [Value.compare_of_rank_ne kinds.symm] at notAfter
        exact absurd (eq_of_places_tie notBefore notAfter) kinds

theorem Value.eq_of_lists_tie : (left right : List Value) →
    Value.compareLists left right ≠ .lt → Value.compareLists right left ≠ .lt → left = right
  | [], [], _, _ => rfl
  | [], _ :: _, notBefore, _ => absurd rfl notBefore
  | _ :: _, [], _, notAfter => absurd rfl notAfter
  | left :: lefts, right :: rights, notBefore, notAfter => by
      rw [Value.compareLists] at notBefore notAfter
      have heads : left = right := by
        refine Value.eq_of_tie left right ?_ ?_
        · exact fun first => notBefore (by rw [first]; rfl)
        · exact fun first => notAfter (by rw [first]; rfl)
      subst heads
      rw [Value.compare_self] at notBefore notAfter
      rw [Value.eq_of_lists_tie lefts rights notBefore notAfter]

end

/-- What one runs through in a set of the given elements: these elements and no others, each in front
of the next. -/
structure Value.Iterates (given iterated : List Value) : Prop where
  mem_iff : ∀ element, element ∈ iterated ↔ element ∈ given
  ascending : iterated.IsChain fun front back => front.compare back = .lt

theorem Value.exists_elements?_set (given : List Value) :
    ∃ iterated, (Value.set given).elements? = some iterated ∧ Value.Iterates given iterated := by
  refine ⟨_, rfl, ?_, ?_⟩
  · refine fun element => Sorting.mem_distinct fun left right notBefore notAfter => ?_
    exact Value.eq_of_tie left right (beq_eq_false_iff_ne.mp notBefore)
      (beq_eq_false_iff_ne.mp notAfter)
  · have chain := Sorting.distinct_isChain
      (fun left right : Value => left.compare right == .lt) given
    exact chain.imp fun _ _ first => beq_iff_eq.mp first

/-! ## What the text of a value shows -/

/-- What separates and escapes in the text of a value. -/
structure Value.Shows (value : Value) (text : List Char) : Prop where
  ampersand : '&' ∉ text
  equals : '=' ∉ text
  comma : ',' ∈ text → value.elements?.isSome = true
  percents : PercentsEscape text
  elements : ∀ elements, value.elements? = some elements → elements ≠ [] →
    (∀ element ∈ elements, element.elements? = none) →
      text.splitOn ',' = elements.map fun element => element.text?.getD []
  set : ∀ given, value.elements? = (Value.set given).elements? → given ≠ [] →
    (∀ element ∈ given, element.elements? = none) →
      ∃ iterated, Value.Iterates given iterated ∧
        text.splitOn ',' = iterated.map fun element => element.text?.getD []

/-- Separators in the text of a value come from its structure alone. -/
theorem Value.shows_of_text {value : Value} {text : List Char} (found : value.text? = some text) :
    value.Shows text where
  ampersand := Value.not_mem_text (Or.inl rfl) value found
  equals := Value.not_mem_text (Or.inr rfl) value found
  comma := Value.elements?_isSome_of_comma_mem found
  percents := Value.percentsEscape_text value found
  elements := fun _ => Value.splitOn_text found
  set := by
    intro given same nonempty single
    obtain ⟨iterated, listed, runs⟩ := Value.exists_elements?_set given
    refine ⟨iterated, runs, ?_⟩
    refine Value.splitOn_text found (same.trans listed) ?_ ?_
    · rintro rfl
      obtain ⟨element, inside⟩ := List.exists_mem_of_ne_nil given nonempty
      exact List.not_mem_nil ((runs.mem_iff element).mpr inside)
    · exact fun element inside => single element ((runs.mem_iff element).mp inside)

/-- A set of optional texts, one of them twice: the absent one comes first and leaves its place empty. -/
theorem Value.shows_of_optional_set :
    let given : List Value := [.present (.text "b=1"), .absent, .present (.text "a,%"), .absent]
    let value : Value := .present (.set given)
    let text := ",a%2C%25,b%3D1".toList
    value.text? = some text ∧ value.Shows text ∧
      ∃ iterated, Value.Iterates given iterated ∧
        text.splitOn ',' = iterated.map fun element => element.text?.getD [] := by
  intro given value text
  have found : value.text? = some text := by decide
  have shows := Value.shows_of_text found
  exact ⟨found, shows, shows.set given rfl (List.cons_ne_nil _ _) (by decide)⟩

end KeysetPaging.Shape
