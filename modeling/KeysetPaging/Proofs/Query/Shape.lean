import KeysetPaging.Proofs.Shape.Description
import KeysetPaging.Proofs.Text.Numeral
import KeysetPaging.Query

/-!
# What the shape of a query tells

The shape of a query that orders by some field determines the page size, the demand, the order and,
for every name, the texts that the filter adds under it; and it is determined by them. An entry of
the filter that is named like one of the query's own entries makes no difference to this: the
query's own text under a name comes first, and there is always exactly one.
-/

namespace KeysetPaging.Query

/-- Two queries that ask for the same pages, cursors apart. -/
structure Agrees (left right : Query) : Prop where
  size_eq : left.size = right.size
  demand_eq : left.demand = right.demand
  order_eq : left.order = right.order
  filter_eq : ∀ name, left.filter.textsOf name = right.filter.textsOf name

/-- The entries of a query that do not come from its filter. -/
def ownEntries (query : Query) : Shape.Filter :=
  [("query_size", .integer query.size.toNat),
    ("query_type", .demand query.demand),
    ("order_fields", .list (query.order.fields.map .text)),
    ("order_types", .list (query.order.directions.map .direction))]

theorem fields_eq_addAll (query : Query) :
    query.fields = (Shape.Fields.empty.addAll query.ownEntries).addAll query.filter := rfl

theorem escaped_fields (query : Query) : query.fields.Escaped := by
  rw [fields_eq_addAll]
  exact (Shape.Fields.escaped_empty.addAll _).addAll _

theorem textsOf_fields (query : Query) (name : String) :
    query.fields.textsOf name.toList =
      query.ownEntries.textsOf name ++ query.filter.textsOf name := by
  rw [fields_eq_addAll, Shape.Fields.textsOf_addAll, Shape.Fields.textsOf_addAll]
  rfl

theorem shape_eq_iff {left right : Query} :
    left.shape = right.shape ↔ ∀ name,
      left.ownEntries.textsOf name ++ left.filter.textsOf name =
        right.ownEntries.textsOf name ++ right.filter.textsOf name := by
  rw [shape, shape, String.ofList_inj,
    Shape.Fields.text_eq_iff left.escaped_fields right.escaped_fields]
  constructor
  · intro same name
    rw [← textsOf_fields, ← textsOf_fields, same]
  · intro same raw
    have named := same (String.ofList raw)
    rw [← textsOf_fields, ← textsOf_fields, String.toList_ofList] at named
    exact named

theorem text_ownEntries_isSome (query : Query) :
    ∀ entry ∈ query.ownEntries, entry.2.text?.isSome = true := by
  simp [ownEntries, Shape.Value.text?]

/-- Every query has as many texts of its own under a name as any other. -/
theorem length_textsOf_ownEntries (left right : Query) (name : String) :
    (left.ownEntries.textsOf name).length = (right.ownEntries.textsOf name).length := by
  rw [Shape.Filter.length_textsOf left.text_ownEntries_isSome,
    Shape.Filter.length_textsOf right.text_ownEntries_isSome]
  rfl

/-- So one shape means the same own texts and the same texts of the filter. -/
theorem textsOf_eq_of_shape_eq {left right : Query} (same : left.shape = right.shape)
    (name : String) :
    left.ownEntries.textsOf name = right.ownEntries.textsOf name ∧
      left.filter.textsOf name = right.filter.textsOf name :=
  List.append_inj (shape_eq_iff.mp same name) (length_textsOf_ownEntries left right name)

theorem textsOf_size (query : Query) :
    query.ownEntries.textsOf "query_size" = [Nat.toDigits 10 query.size.toNat] := by
  simp [ownEntries, Shape.Filter.textsOf, Shape.Value.text?, Text.Numeral.integerText]

theorem textsOf_demand (query : Query) :
    query.ownEntries.textsOf "query_type" = [query.demand.label.toList] := by
  simp [ownEntries, Shape.Filter.textsOf, Shape.Value.text?]

theorem textsOf_fields_order (query : Query) :
    query.ownEntries.textsOf "order_fields" =
      [Text.join ',' (query.order.fields.map fun field => Shape.escape field.toList)] := by
  simp [ownEntries, Shape.Filter.textsOf, Shape.Value.text?, Shape.Value.texts_eq_map,
    Function.comp_def]

theorem textsOf_directions (query : Query) :
    query.ownEntries.textsOf "order_types" =
      [Text.join ',' (query.order.directions.map fun direction => direction.label.toList)] := by
  simp [ownEntries, Shape.Filter.textsOf, Shape.Value.text?, Shape.Value.texts_eq_map,
    Function.comp_def]

theorem comma_not_mem_label (direction : Direction) : ',' ∉ direction.label.toList := by
  cases direction <;> decide

theorem direction_eq_of_label_eq {left right : Direction}
    (same : left.label.toList = right.label.toList) : left = right := by
  cases left <;> cases right <;> first | rfl | exact absurd same (by decide)

theorem demand_eq_of_label_eq {left right : Demand} (same : left.label.toList = right.label.toList) :
    left = right := by
  cases left <;> cases right <;> first | rfl | exact absurd same (by decide)

theorem order_eq_of_columns_eq {left right : SortOrder} (fields : left.fields = right.fields)
    (directions : left.directions = right.directions) : left = right := by
  cases left with
  | mk terms =>
      cases right with
      | mk others =>
          refine congrArg SortOrder.mk (List.ext_getElem ?_ ?_)
          · simpa [SortOrder.fields] using congrArg List.length fields
          · intro place first second
            have field := List.getElem_of_eq fields (by simpa [SortOrder.fields] using first)
            have direction :=
              List.getElem_of_eq directions (by simpa [SortOrder.directions] using first)
            simp only [SortOrder.fields, SortOrder.directions, List.getElem_map] at field direction
            exact SortTerm.mk.injEq .. ▸ ⟨field, direction⟩

/-- Ordered queries have one shape exactly if they ask for the same pages. -/
theorem shape_eq_iff_agrees {left right : Query} (orderedLeft : left.order.terms ≠ [])
    (orderedRight : right.order.terms ≠ []) : left.shape = right.shape ↔ left.Agrees right := by
  constructor
  · intro same
    have own := fun name => (textsOf_eq_of_shape_eq same name).1
    have size := own "query_size"
    have demand := own "query_type"
    have fields := own "order_fields"
    have directions := own "order_types"
    rw [textsOf_size, textsOf_size, List.singleton_inj] at size
    rw [textsOf_demand, textsOf_demand, List.singleton_inj] at demand
    rw [textsOf_fields_order, textsOf_fields_order, List.singleton_inj] at fields
    rw [textsOf_directions, textsOf_directions, List.singleton_inj] at directions
    exact {
      size_eq := UInt32.toNat.inj (Text.Numeral.toDigits_inj size)
      demand_eq := demand_eq_of_label_eq demand
      order_eq := order_eq_of_columns_eq
        (Text.join_map_inj (fun field => Shape.not_mem_escape (Or.inr (Or.inl rfl)) field.toList)
          (fun alike => String.toList_inj.mp (Shape.escape_inj alike))
          (mt List.map_eq_nil_iff.mp orderedLeft) (mt List.map_eq_nil_iff.mp orderedRight) fields)
        (Text.join_map_inj comma_not_mem_label direction_eq_of_label_eq
          (mt List.map_eq_nil_iff.mp orderedLeft) (mt List.map_eq_nil_iff.mp orderedRight)
          directions)
      filter_eq := fun name => (textsOf_eq_of_shape_eq same name).2 }
  · intro agrees
    refine shape_eq_iff.mpr fun name => ?_
    rw [ownEntries, ownEntries, agrees.size_eq, agrees.demand_eq, agrees.order_eq,
      agrees.filter_eq name]

end KeysetPaging.Query
