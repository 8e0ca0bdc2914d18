import KeysetPaging.Proofs.Sorting
import KeysetPaging.Seek
import Mathlib.Order.Compare
import Mathlib.Order.Lattice

/-!
# Tables of several fields

The rows of a sheet have a value for every field. They are listed in the lexicographic order of the
terms of an order, and a seek selects among them by the value of the cursor field alone. Where the
rows differ in the cursor field and the order names it, the listing is strictly sorted.
-/

namespace KeysetPaging

/-- Rows of type `ρ` with values of type `κ`. -/
structure Sheet (ρ κ : Type) where
  rows : List ρ
  value : String → ρ → κ

namespace Sheet

variable {ρ κ : Type} [LinearOrder κ]

/-- How two rows compare in one term of an order. -/
def compareIn (sheet : Sheet ρ κ) (term : SortTerm) (left right : ρ) : Ordering :=
  match term.direction with
  | .ascending => compare (sheet.value term.field left) (sheet.value term.field right)
  | .descending => compare (sheet.value term.field right) (sheet.value term.field left)

/-- How two rows compare in the terms of an order, the most significant first. -/
def compareBy (sheet : Sheet ρ κ) : List SortTerm → ρ → ρ → Ordering
  | [] => fun _ _ => .eq
  | term :: rest => compareLex (sheet.compareIn term) (sheet.compareBy rest)

/-- Whether a row comes before another in an order. -/
def precedes (sheet : Sheet ρ κ) (order : SortOrder) (left right : ρ) : Bool :=
  sheet.compareBy order.terms left right == .lt

/-- The rows in an order. -/
def listing (sheet : Sheet ρ κ) (order : SortOrder) : List ρ :=
  Sorting.sort (sheet.precedes order) sheet.rows

/-- Whether a row lies on a side of an anchor; without an anchor every row does. -/
def lies (sheet : Sheet ρ κ) (field : String) (side : Side) (anchor : Option κ) (row : ρ) : Bool :=
  anchor.all fun value => side.covers (compare (sheet.value field row) value)

/-- Whether a row lies on a side of another one. -/
def past (sheet : Sheet ρ κ) (field : String) (side : Side) (anchor row : ρ) : Bool :=
  sheet.lies field side (some (sheet.value field anchor)) row

/-- The rows on the seek's side of the anchor, in the seek's order, up to its limit. -/
def select (sheet : Sheet ρ κ) (seek : Seek) (anchor : Option κ) : List ρ :=
  (Sorting.sort (sheet.precedes seek.fetchOrder)
    (sheet.rows.filter (sheet.lies seek.cursorField seek.side anchor))).take seek.limit.toNat

section Order

variable {sheet : Sheet ρ κ}

theorem transCmp_compareIn (sheet : Sheet ρ κ) (term : SortTerm) :
    Std.TransCmp (sheet.compareIn term) := by
  cases term with
  | mk field direction =>
      cases direction with
      | ascending => exact inferInstanceAs (Std.TransCmp (compareOn (sheet.value field)))
      | descending => exact @Std.TransCmp.opposite ρ (compareOn (sheet.value field)) inferInstance

theorem transCmp_compareBy (sheet : Sheet ρ κ) (terms : List SortTerm) :
    Std.TransCmp (sheet.compareBy terms) := by
  induction terms with
  | nil => exact { eq_swap := rfl, isLE_trans := fun _ _ => rfl }
  | cons term rest ih =>
      have head := sheet.transCmp_compareIn term
      exact inferInstanceAs (Std.TransCmp (compareLex (sheet.compareIn term) (sheet.compareBy rest)))

/-- Rows that tie in an order have the same values of its fields. -/
theorem value_eq_of_compareBy_eq {terms : List SortTerm} {left right : ρ}
    (tie : sheet.compareBy terms left right = .eq) {term : SortTerm} (member : term ∈ terms) :
    sheet.value term.field left = sheet.value term.field right := by
  induction terms with
  | nil => cases member
  | cons head rest ih =>
      obtain ⟨first, others⟩ := Ordering.then_eq_eq.mp tie
      rcases List.mem_cons.mp member with rfl | member
      · unfold compareIn at first
        split at first
        · exact compare_eq_iff_eq.mp first
        · exact (compare_eq_iff_eq.mp first).symm
      · exact ih others member

theorem isOrder_precedes (sheet : Sheet ρ κ) (order : SortOrder) :
    Sorting.IsOrder (sheet.precedes order) := by
  have lawful := sheet.transCmp_compareBy order.terms
  constructor
  · intro a b first
    have before := beq_iff_eq.mp first
    unfold precedes
    rw [Std.OrientedCmp.gt_iff_lt.mpr before]
    rfl
  · intro a b c one two
    have back : (sheet.compareBy order.terms a c).isGE = true :=
      Std.TransCmp.isGE_trans (Ordering.isGE_iff_ne_lt.mpr (beq_eq_false_iff_ne.mp one))
        (Ordering.isGE_iff_ne_lt.mpr (beq_eq_false_iff_ne.mp two))
    exact beq_eq_false_iff_ne.mpr (Ordering.isGE_iff_ne_lt.mp back)

theorem length_listing (sheet : Sheet ρ κ) (order : SortOrder) :
    (sheet.listing order).length = sheet.rows.length :=
  (Sorting.sort_perm _ sheet.rows).length_eq

theorem mem_listing {order : SortOrder} {row : ρ} : row ∈ sheet.listing order ↔ row ∈ sheet.rows :=
  (Sorting.sort_perm _ sheet.rows).mem_iff

theorem listing_apart (order : SortOrder) {field : String}
    (distinct : (sheet.rows.map (sheet.value field)).Nodup) :
    (sheet.listing order).Pairwise fun left right =>
      sheet.value field left ≠ sheet.value field right :=
  List.pairwise_map.mp
    (((Sorting.sort_perm (sheet.precedes order) sheet.rows).map _).nodup_iff.mpr distinct)

/-- Rows that differ in a field of the order are strictly sorted by it. -/
theorem listing_sorted {order : SortOrder} {field : String} (named : field ∈ order.fields)
    (distinct : (sheet.rows.map (sheet.value field)).Nodup) :
    (sheet.listing order).Pairwise fun left right => sheet.precedes order left right = true := by
  have lawful := sheet.transCmp_compareBy order.terms
  obtain ⟨term, member, rfl⟩ := List.mem_map.mp named
  have sorted := Sorting.sort_sorted (sheet.isOrder_precedes order) sheet.rows
  refine (sorted.and (listing_apart order distinct)).imp fun {front back} both => ?_
  have notAfter : sheet.compareBy order.terms front back ≠ .gt := fun after =>
    beq_eq_false_iff_ne.mp both.1 (Std.OrientedCmp.gt_iff_lt.mp after)
  have noTie : sheet.compareBy order.terms front back ≠ .eq := fun tie =>
    both.2 (value_eq_of_compareBy_eq tie member)
  unfold precedes
  cases compared : sheet.compareBy order.terms front back with
  | lt => rfl
  | eq => exact absurd compared noTie
  | gt => exact absurd compared notAfter

theorem precedes_asymm {order : SortOrder} (left right : ρ)
    (first : sheet.precedes order left right = true) : ¬sheet.precedes order right left = true := by
  rw [(sheet.isOrder_precedes order).asymm first]
  exact Bool.false_ne_true

theorem past_irrefl (sheet : Sheet ρ κ) (field : String) (side : Side) (row : ρ) :
    sheet.past field side row row = false := by
  simp only [past, lies, Option.all_some, Std.compare_self]
  cases side <;> rfl

theorem past_above {field : String} {anchor row : ρ} :
    sheet.past field .above anchor row = true ↔ sheet.value field anchor < sheet.value field row := by
  rw [← compare_gt_iff_gt]
  simp only [past, lies, Option.all_some]
  cases compare (sheet.value field row) (sheet.value field anchor) <;> simp [Side.covers]

theorem past_below {field : String} {anchor row : ρ} :
    sheet.past field .below anchor row = true ↔ sheet.value field row < sheet.value field anchor := by
  rw [← compare_lt_iff_lt]
  simp only [past, lies, Option.all_some]
  cases compare (sheet.value field row) (sheet.value field anchor) <;> simp [Side.covers]

theorem past_trans (sheet : Sheet ρ κ) (field : String) (side : Side) (a b c : ρ)
    (one : sheet.past field side a b = true) (two : sheet.past field side b c = true) :
    sheet.past field side a c = true := by
  cases side with
  | above => exact past_above.mpr ((past_above.mp one).trans (past_above.mp two))
  | below => exact past_below.mpr ((past_below.mp two).trans (past_below.mp one))

/-- Where the cursor field is the most significant one, the rows lie past each other as listed. -/
theorem listing_sorted_past {order : SortOrder} {field : String} {direction : Direction}
    (leads : order.terms.head? = some ⟨field, direction⟩)
    (distinct : (sheet.rows.map (sheet.value field)).Nodup) :
    (sheet.listing order).Pairwise fun left right =>
      sheet.past field (Side.ahead direction.isAscending) left right = true := by
  obtain ⟨rest, terms⟩ := List.head?_eq_some_iff.mp leads
  have named : field ∈ order.fields := by
    rw [SortOrder.fields, terms]
    exact List.mem_cons_self
  refine ((listing_sorted named distinct).and (listing_apart order distinct)).imp
    fun {front back} both => ?_
  have first : sheet.compareIn ⟨field, direction⟩ front back = .lt := by
    have before := beq_iff_eq.mp both.1
    rw [terms] at before
    rcases Ordering.then_eq_lt.mp before with first | ⟨tie, -⟩
    · exact first
    · cases direction with
      | ascending => exact absurd (compare_eq_iff_eq.mp tie) both.2
      | descending => exact absurd (compare_eq_iff_eq.mp tie).symm both.2
  cases direction with
  | ascending => exact past_above.mpr (compare_lt_iff_lt.mp first)
  | descending => exact past_below.mpr (compare_lt_iff_lt.mp first)

/-- A seek selects the front of the listing without the rows on the other side of the anchor. -/
theorem select_eq_take (sheet : Sheet ρ κ) (seek : Seek) (anchor : Option κ) :
    sheet.select seek anchor =
      ((sheet.listing seek.fetchOrder).filter
        (sheet.lies seek.cursorField seek.side anchor)).take seek.limit.toNat := by
  rw [select, listing, Sorting.filter_sort (sheet.isOrder_precedes seek.fetchOrder)]

end Order

end Sheet

end KeysetPaging
