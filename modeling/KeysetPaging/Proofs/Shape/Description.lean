import KeysetPaging.Proofs.Shape.Separators
import KeysetPaging.Proofs.Sorting
import KeysetPaging.Shape.Fields

/-!
# What a description tells about its entries

The text of a description determines, for every name, the texts that were added under it, in their
order; and it is determined by them. So nothing is lost but the order in which different names came,
and no name and no value can pose as another entry.
-/

namespace KeysetPaging.Shape

/-- The texts that a filter adds under a name, in the order in which they come. -/
def Filter.textsOf (filter : Filter) (name : String) : List (List Char) :=
  filter.filterMap fun entry => if entry.1 = name then entry.2.text? else none

/-- If no value is absent, a name has as many texts as entries. -/
theorem Filter.length_textsOf {filter : Filter}
    (present : ∀ entry ∈ filter, entry.2.text?.isSome = true) (name : String) :
    (filter.textsOf name).length = (filter.map Prod.fst).count name := by
  induction filter with
  | nil => rfl
  | cons entry rest ih =>
      rw [List.forall_mem_cons] at present
      obtain ⟨text, found⟩ := Option.isSome_iff_exists.mp present.1
      have counted := ih present.2
      unfold textsOf at counted ⊢
      by_cases same : entry.1 = name
      · simp [same, found, counted]
      · simp [same, counted]

theorem Filter.mem_textsOf {filter : Filter} {name : String} {text : List Char} :
    text ∈ filter.textsOf name ↔ ∃ value, (name, value) ∈ filter ∧ value.text? = some text := by
  rw [textsOf, List.mem_filterMap]
  constructor
  · rintro ⟨⟨other, value⟩, member, found⟩
    obtain ⟨rfl, present⟩ := Option.ite_none_right_eq_some.mp found
    exact ⟨value, member, present⟩
  · rintro ⟨value, member, present⟩
    exact ⟨(name, value), member, Option.ite_none_right_eq_some.mpr ⟨rfl, present⟩⟩

/-- Where no name comes twice, the order in which the entries come makes no difference. -/
theorem Filter.textsOf_eq_of_perm {left right : Filter} (perm : left.Perm right)
    (apart : (left.map Prod.fst).Nodup) (name : String) :
    left.textsOf name = right.textsOf name := by
  unfold textsOf
  induction perm with
  | nil => rfl
  | cons entry perm ih =>
      rw [List.filterMap_cons, List.filterMap_cons, ih (List.nodup_cons.mp apart).2]
  | swap second first rest =>
      have differ : first.1 ≠ second.1 := fun same =>
        (List.nodup_cons.mp apart).1 (same ▸ List.mem_cons_self)
      by_cases named : first.1 = name
      · have other : second.1 ≠ name := fun same => differ (named.trans same.symm)
        simp only [List.filterMap_cons, if_neg other]
      · simp only [List.filterMap_cons, if_neg named]
  | trans perm₁ perm₂ ih₁ ih₂ =>
      exact (ih₁ apart).trans (ih₂ ((perm₁.map Prod.fst).nodup_iff.mp apart))

/-- An entry whose name is an escape and whose text holds no separator between entries. -/
structure Entry.Escaped (entry : Entry) : Prop where
  name : ∃ raw, entry.name = escape raw
  text : '&' ∉ entry.text

namespace Entry

theorem Escaped.not_mem_name {entry : Entry} (escaped : entry.Escaped) {separator : Char}
    (separates : separator = '&' ∨ separator = ',' ∨ separator = '=') :
    separator ∉ entry.name := by
  obtain ⟨raw, same⟩ := escaped.name
  rw [same]
  exact not_mem_escape separates raw

theorem Escaped.not_mem_render {entry : Entry} (escaped : entry.Escaped) :
    '&' ∉ entry.render := by
  intro member
  rcases List.mem_append.mp member with member | member
  · exact escaped.not_mem_name (Or.inl rfl) member
  · rcases List.mem_cons.mp member with equals | member
    · exact absurd equals (by decide)
    · exact escaped.text member

theorem render_ne_nil (entry : Entry) : entry.render ≠ [] :=
  List.append_ne_nil_of_right_ne_nil _ (List.cons_ne_nil _ _)

theorem render_inj {left right : Entry} (escapedLeft : left.Escaped) (escapedRight : right.Escaped)
    (same : left.render = right.render) : left = right := by
  obtain ⟨names, texts⟩ := Text.append_separator_inj
    (escapedLeft.not_mem_name (Or.inr (Or.inr rfl)))
    (escapedRight.not_mem_name (Or.inr (Or.inr rfl))) same
  cases left with
  | mk name text =>
      cases right with
      | mk other words =>
          dsimp only at names texts
          rw [names, texts]

theorem map_render_inj {left right : List Entry} (escapedLeft : ∀ entry ∈ left, entry.Escaped)
    (escapedRight : ∀ entry ∈ right, entry.Escaped)
    (same : left.map render = right.map render) : left = right := by
  induction left generalizing right with
  | nil => exact (List.map_eq_nil_iff.mp same.symm).symm
  | cons entry rest ih =>
      obtain ⟨other, others, rfl, head, tail⟩ := List.map_eq_cons_iff.mp same.symm
      rw [List.forall_mem_cons] at escapedLeft escapedRight
      rw [render_inj escapedLeft.1 escapedRight.1 head.symm,
        ih escapedLeft.2 escapedRight.2 tail.symm]

end Entry

namespace Fields

/-- Every entry is escaped. -/
def Escaped (fields : Fields) : Prop :=
  ∀ entry ∈ fields.entries, entry.Escaped

theorem escaped_empty : empty.Escaped := by
  intro entry member
  cases member

theorem Escaped.add {fields : Fields} (escaped : fields.Escaped) (name : String) (value : Value) :
    (fields.add name value).Escaped := by
  cases found : value.text? with
  | none => rwa [add_of_absent found]
  | some text =>
      rw [add_of_present found]
      intro entry member
      rcases List.mem_append.mp member with member | member
      · exact escaped entry member
      · rw [List.mem_singleton.mp member]
        exact ⟨⟨name.toList, rfl⟩, Value.not_mem_text (Or.inl rfl) value found⟩

theorem Escaped.addAll {fields : Fields} (escaped : fields.Escaped) (filter : Filter) :
    (fields.addAll filter).Escaped := by
  induction filter generalizing fields with
  | nil => exact escaped
  | cons entry rest ih => exact ih (escaped.add entry.1 entry.2)

theorem textsOf_add (fields : Fields) (name other : String) (value : Value) :
    (fields.add name value).textsOf other.toList =
      fields.textsOf other.toList ++ (if name = other then value.text? else none).toList := by
  cases found : value.text? with
  | none => simp [add_of_absent found]
  | some text =>
      by_cases same : name = other
      · simp [add_of_present found, textsOf, same]
      · have apart : escape name.toList ≠ escape other.toList :=
          fun alike => same (String.toList_inj.mp (escape_inj alike))
        simp [add_of_present found, textsOf, same, apart]

theorem textsOf_addAll (fields : Fields) (filter : Filter) (name : String) :
    (fields.addAll filter).textsOf name.toList =
      fields.textsOf name.toList ++ filter.textsOf name := by
  induction filter generalizing fields with
  | nil => simp [Filter.textsOf]
  | cons entry rest ih =>
      rw [addAll_cons, ih, textsOf_add, List.append_assoc]
      congr 1
      unfold Filter.textsOf
      rw [List.filterMap_cons]
      cases (if entry.1 = name then entry.2.text? else none) with
      | none => rfl
      | some text => rfl

theorem mem_entries_of_mem_textsOf {fields : Fields} {raw text : List Char}
    (member : text ∈ fields.textsOf raw) : ⟨escape raw, text⟩ ∈ fields.entries := by
  obtain ⟨entry, inside, rfl⟩ := List.mem_map.mp member
  obtain ⟨inside, named⟩ := List.mem_filter.mp inside
  rw [← eq_of_beq named]
  exact inside

theorem mem_entries_add {fields : Fields} {name : String} {value : Value} {entry : Entry}
    (member : entry ∈ (fields.add name value).entries) :
    entry ∈ fields.entries ∨ value.text? = some entry.text ∧ entry.name = escape name.toList := by
  cases found : value.text? with
  | none =>
      rw [add_of_absent found] at member
      exact Or.inl member
  | some text =>
      rw [add_of_present found] at member
      rcases List.mem_append.mp member with member | member
      · exact Or.inl member
      · rw [List.mem_singleton.mp member]
        exact Or.inr ⟨rfl, rfl⟩

/-- Every entry is an old one or comes from the filter. -/
theorem mem_entries_addAll {fields : Fields} {filter : Filter} {entry : Entry}
    (member : entry ∈ (fields.addAll filter).entries) :
    entry ∈ fields.entries ∨
      ∃ named ∈ filter, named.2.text? = some entry.text ∧ entry.name = escape named.1.toList := by
  induction filter generalizing fields with
  | nil => exact Or.inl member
  | cons named rest ih =>
      rcases ih member with member | ⟨other, inside, origin⟩
      · rcases mem_entries_add member with member | origin
        · exact Or.inl member
        · exact Or.inr ⟨named, List.mem_cons_self, origin⟩
      · exact Or.inr ⟨other, List.mem_cons_of_mem named inside, origin⟩

/-- Names come in code point order, and texts under one name in the order in which they came. -/
theorem isOrder_precedes : Sorting.IsOrder Text.precedes where
  asymm first := Text.not_precedes_iff.mpr (List.lt_asymm (Text.precedes_iff.mp first))
  trans := by
    intro a b c notFirst notSecond
    have below := List.not_lt.mp (Text.not_precedes_iff.mp notFirst)
    have lowest := List.not_lt.mp (Text.not_precedes_iff.mp notSecond)
    exact Text.not_precedes_iff.mpr (List.not_lt.mpr (List.le_trans lowest below))

theorem isOrder_names :
    Sorting.IsOrder fun left right : Entry => Text.precedes left.name right.name where
  asymm := isOrder_precedes.asymm
  trans := isOrder_precedes.trans

theorem withKey_sorted (fields : Fields) (name : List Char) :
    Sorting.withKey Entry.name name fields.sorted =
      Sorting.withKey Entry.name name fields.entries := by
  refine Sorting.filter_sort_of_tie ?_ fields.entries
  intro left right alike same
  rw [of_decide_eq_true alike, of_decide_eq_true same]
  exact Text.not_precedes_iff.mpr (List.lt_irrefl name)

theorem textsOf_eq_map_withKey (fields : Fields) (raw : List Char) :
    fields.textsOf raw =
      (Sorting.withKey Entry.name (escape raw) fields.entries).map Entry.text := by
  unfold textsOf Sorting.withKey
  congr 2
  funext entry
  exact Bool.beq_eq_decide_eq entry.name (escape raw)

/-- Entries of one name are told apart by their texts. -/
theorem withKey_eq_map_textsOf (fields : Fields) (raw : List Char) :
    Sorting.withKey Entry.name (escape raw) fields.entries =
      (fields.textsOf raw).map (Entry.mk (escape raw)) := by
  rw [textsOf_eq_map_withKey, List.map_map]
  refine (List.map_id _).symm.trans (List.map_congr_left ?_)
  intro entry member
  have named : entry.name = escape raw := of_decide_eq_true (List.mem_filter.mp member).2
  cases entry with
  | mk name text =>
      dsimp only at named
      subst named
      rfl

theorem withKey_eq_nil_of_not_escape {fields : Fields} (escaped : fields.Escaped)
    {name : List Char} (foreign : ¬∃ raw, name = escape raw) :
    Sorting.withKey Entry.name name fields.entries = [] := by
  refine List.filter_eq_nil_iff.mpr fun entry member named => ?_
  obtain ⟨raw, same⟩ := (escaped entry member).name
  exact foreign ⟨raw, (of_decide_eq_true named).symm.trans same⟩

theorem mem_sorted {fields : Fields} {entry : Entry} :
    entry ∈ fields.sorted ↔ entry ∈ fields.entries :=
  (Sorting.sort_perm _ fields.entries).mem_iff

theorem Escaped.sorted {fields : Fields} (escaped : fields.Escaped) {entry : Entry}
    (member : entry ∈ fields.sorted) : entry.Escaped :=
  escaped entry (mem_sorted.mp member)

theorem Escaped.not_mem_renders {fields : Fields} (escaped : fields.Escaped) :
    ∀ part ∈ fields.sorted.map Entry.render, '&' ∉ part := by
  intro part member
  obtain ⟨entry, inside, rfl⟩ := List.mem_map.mp member
  exact (escaped.sorted inside).not_mem_render

/-- The text of a description determines its sorted entries. -/
theorem sorted_eq_of_text_eq {left right : Fields} (escapedLeft : left.Escaped)
    (escapedRight : right.Escaped) (same : left.text = right.text) : left.sorted = right.sorted := by
  have solid : ∀ fields : Fields, [] ∉ fields.sorted.map Entry.render := by
    intro fields member
    obtain ⟨entry, _, empty⟩ := List.mem_map.mp member
    exact entry.render_ne_nil empty
  have renders := Text.join_inj_of_ne_nil escapedLeft.not_mem_renders escapedRight.not_mem_renders
    (solid left) (solid right) same
  exact Entry.map_render_inj (fun _ => escapedLeft.sorted) (fun _ => escapedRight.sorted) renders

/-- Where the text of a description goes on behind a hash sign after the text of another, an entry of
its own goes on after the last entry of the other, under the same name. -/
theorem exists_entry_of_text_continues {left right : Fields} (escapedLeft : left.Escaped)
    (escapedRight : right.Escaped) (nonempty : right.entries ≠ []) {gap : List Char}
    (continues : left.text = right.text ++ '#' :: gap) :
    ∃ longer ∈ left.entries, ∃ front last more,
      right.sorted = front ++ [last] ∧ longer.name = last.name ∧
        longer.text = last.text ++ '#' :: more := by
  have rendered : right.sorted.map Entry.render ≠ [] := by
    intro empty
    obtain ⟨entry, member⟩ := List.exists_mem_of_ne_nil right.entries nonempty
    have inside := mem_sorted.mpr member
    rw [List.map_eq_nil_iff.mp empty] at inside
    cases inside
  obtain ⟨front, last, more, back, shape, longer⟩ := Text.join_eq_join_append (by decide)
    escapedLeft.not_mem_renders escapedRight.not_mem_renders rendered continues
  obtain ⟨entries, tail, split, -, renderedLast⟩ := List.map_eq_append_iff.mp shape
  obtain ⟨entry, rfl, rfl⟩ := List.map_eq_singleton_iff.mp renderedLast
  obtain ⟨others, rest, splitLeft, -, renderedLeft⟩ := List.map_eq_append_iff.mp longer
  obtain ⟨found, remaining, rfl, continued, -⟩ := List.map_eq_cons_iff.mp renderedLeft
  have inLeft : found ∈ left.sorted := by
    rw [splitLeft]
    exact List.mem_append_right others List.mem_cons_self
  have inRight : entry ∈ right.sorted := by
    rw [split]
    exact List.mem_append_right entries List.mem_cons_self
  have parts : found.name ++ '=' :: found.text =
      entry.name ++ '=' :: (entry.text ++ '#' :: more) := by
    rw [← List.cons_append, ← List.append_assoc]
    exact continued
  obtain ⟨name, text⟩ := Text.append_separator_inj
    ((escapedLeft.sorted inLeft).not_mem_name (Or.inr (Or.inr rfl)))
    ((escapedRight.sorted inRight).not_mem_name (Or.inr (Or.inr rfl))) parts
  exact ⟨found, mem_sorted.mp inLeft, entries, entry, more, split, name, text⟩

/-- Two descriptions are the same text exactly if every name has the same texts in both. -/
theorem text_eq_iff {left right : Fields} (escapedLeft : left.Escaped)
    (escapedRight : right.Escaped) :
    left.text = right.text ↔ ∀ raw, left.textsOf raw = right.textsOf raw := by
  constructor
  · intro same raw
    have sorted := sorted_eq_of_text_eq escapedLeft escapedRight same
    rw [textsOf_eq_map_withKey, textsOf_eq_map_withKey, ← withKey_sorted left, sorted,
      withKey_sorted right]
  · intro same
    have sorted : left.sorted = right.sorted := by
      refine Sorting.eq_of_withKey_eq isOrder_precedes (fun _ _ => Text.eq_of_tie)
        (Sorting.sort_sorted isOrder_names left.entries)
        (Sorting.sort_sorted isOrder_names right.entries) ?_
      intro name
      rw [withKey_sorted, withKey_sorted]
      by_cases own : ∃ raw, name = escape raw
      · obtain ⟨raw, rfl⟩ := own
        rw [withKey_eq_map_textsOf, withKey_eq_map_textsOf, same raw]
      · rw [withKey_eq_nil_of_not_escape escapedLeft own,
          withKey_eq_nil_of_not_escape escapedRight own]
    rw [Fields.text, Fields.text, sorted]

/-- The text of values that were added one after another determines the texts of each name in their
order, and they determine it: entries of different names may come in any order, and every text stands
under the name that it was added under. -/
theorem text_addAll_determines (left right : Filter) :
    ((empty.addAll left).text = (empty.addAll right).text ↔
        ∀ name, left.textsOf name = right.textsOf name) ∧
      (left.Perm right → (left.map Prod.fst).Nodup →
        (empty.addAll left).text = (empty.addAll right).text) ∧
      ((empty.addAll left).text = (empty.addAll right).text → ∀ name text,
        (∃ value, (name, value) ∈ left ∧ value.text? = some text) ↔
          ∃ value, (name, value) ∈ right ∧ value.text? = some text) := by
  have determined : (empty.addAll left).text = (empty.addAll right).text ↔
      ∀ name, left.textsOf name = right.textsOf name := by
    rw [text_eq_iff (escaped_empty.addAll left) (escaped_empty.addAll right)]
    constructor
    · intro same name
      have named := same name.toList
      rwa [textsOf_addAll, textsOf_addAll] at named
    · intro same raw
      obtain ⟨name, rfl⟩ : ∃ name : String, name.toList = raw := ⟨_, String.toList_ofList⟩
      rw [textsOf_addAll, textsOf_addAll, same name]
  refine ⟨determined, ?_, ?_⟩
  · intro perm apart
    exact determined.mpr (Filter.textsOf_eq_of_perm perm apart)
  · intro same name text
    rw [← Filter.mem_textsOf, ← Filter.mem_textsOf, determined.mp same name]

end Fields

end KeysetPaging.Shape
