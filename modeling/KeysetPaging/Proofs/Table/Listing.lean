import KeysetPaging.Proofs.Sorting
import KeysetPaging.Proofs.Text.Numeral
import KeysetPaging.Table

/-!
# Tables as sorted lists

A table of distinct numbers is listed in either direction of the cursor field, strictly sorted. What a
seek selects is the front of the part of the listing past the anchor, or of the part before it turned
around. Of a listing cut in two, the numbers past the last one of the front are the back, and the
numbers before the first one of the back are the front.
-/

namespace KeysetPaging.Table

/-- The cursor value of a number. -/
def decimal (id : Int64) : String :=
  String.ofList (Text.Numeral.integerText id.toInt)

/-- Whether a number comes before another in a direction of the cursor field. -/
def precedes (ascending : Bool) (left right : Int64) : Bool :=
  if ascending then decide (left.toInt < right.toInt) else decide (right.toInt < left.toInt)

/-- The numbers in a direction of the cursor field. -/
def listing (ids : List Int64) (ascending : Bool) : List Int64 :=
  Sorting.sort (precedes ascending) ids

theorem signed64?_decimal (id : Int64) :
    (Text.Numeral.signed? (decimal id).toList).bind Text.Numeral.signed64? = some id := by
  rw [decimal, String.toList_ofList, Text.Numeral.signed?_integerText]
  exact Text.Numeral.signed64?_toInt id

theorem number_decimal (id : Int64) (page : UInt32) :
    Position.number ⟨decimal id, page⟩ = .ok id := by
  unfold Position.number
  rw [signed64?_decimal]

theorem utf8ByteSize_decimal_le (id : Int64) : (decimal id).utf8ByteSize ≤ 20 :=
  Text.Numeral.utf8ByteSize_integerText_le id

theorem precedes_not (ascending : Bool) (left right : Int64) :
    precedes (!ascending) left right = precedes ascending right left := by
  cases ascending <;> simp [precedes]

theorem precedes_asymm {ascending : Bool} {left right : Int64}
    (first : precedes ascending left right = true) : precedes ascending right left = false := by
  cases ascending <;> simp_all [precedes] <;> omega

theorem precedes_trans {ascending : Bool} {first second third : Int64}
    (one : precedes ascending first second = true) (two : precedes ascending second third = true) :
    precedes ascending first third = true := by
  cases ascending <;> simp_all [precedes] <;> omega

theorem precedes_irrefl (ascending : Bool) (id : Int64) : precedes ascending id id = false := by
  cases ascending <;> simp [precedes]

theorem eq_of_not_precedes {ascending : Bool} {left right : Int64}
    (notBefore : precedes ascending left right = false)
    (notAfter : precedes ascending right left = false) : left = right := by
  apply Int64.toInt_inj.mp
  cases ascending <;> simp_all [precedes] <;> omega

theorem isOrder_precedes (ascending : Bool) : Sorting.IsOrder (precedes ascending) where
  asymm := precedes_asymm
  trans := by
    intro a b c one two
    cases ascending <;> simp_all [precedes] <;> omega

theorem listing_perm (ids : List Int64) (ascending : Bool) : (listing ids ascending).Perm ids :=
  Sorting.sort_perm _ ids

theorem mem_listing {ids : List Int64} {ascending : Bool} {id : Int64} :
    id ∈ listing ids ascending ↔ id ∈ ids :=
  (listing_perm ids ascending).mem_iff

theorem length_listing (ids : List Int64) (ascending : Bool) :
    (listing ids ascending).length = ids.length :=
  (listing_perm ids ascending).length_eq

/-- A listing of distinct numbers is strictly sorted. -/
theorem listing_sorted {ids : List Int64} (distinct : ids.Nodup) (ascending : Bool) :
    (listing ids ascending).Pairwise fun left right => precedes ascending left right = true := by
  have sorted := Sorting.sort_sorted (isOrder_precedes ascending) ids
  have apart := (listing_perm ids ascending).nodup_iff.mpr distinct
  refine (sorted.and apart).imp fun {left right} both => ?_
  cases first : precedes ascending left right with
  | true => rfl
  | false => exact absurd (eq_of_not_precedes first both.1) both.2

theorem listing_filter (ids : List Int64) (ascending : Bool) (keeps : Int64 → Bool) :
    listing (ids.filter keeps) ascending = (listing ids ascending).filter keeps :=
  (Sorting.filter_sort (isOrder_precedes ascending) keeps ids).symm

/-- A list sorted in one direction is sorted in the other when it is turned around. -/
theorem sorted_reverse {ascending : Bool} {ids : List Int64}
    (sorted : ids.Pairwise fun left right => precedes ascending left right = true) :
    ids.reverse.Pairwise fun left right => precedes (!ascending) left right = true := by
  refine List.pairwise_reverse.mpr (sorted.imp fun first => ?_)
  rwa [precedes_not]

/-- The other direction turns the listing around. -/
theorem reverse_listing {ids : List Int64} (distinct : ids.Nodup) (ascending : Bool) :
    (listing ids ascending).reverse = listing ids !ascending := by
  refine List.Perm.eq_of_pairwise (fun left right _ _ one two => ?_)
    (sorted_reverse (listing_sorted distinct ascending)) (listing_sorted distinct !ascending)
    ((List.reverse_perm _).trans ((listing_perm ids _).trans (listing_perm ids _).symm))
  rw [precedes_asymm one] at two
  cases two

/-- What a seek selects, as the front of a listing without the numbers on the other side. -/
theorem select_eq_take {ids : List Int64} (distinct : ids.Nodup) (seek : Seek)
    (anchor : Option Int64) :
    select ids seek anchor =
      ((listing ids !descends seek).filter (lies seek.side anchor)).take seek.limit.toNat := by
  have ascending : Sorting.sort (fun left right => decide (left.toInt < right.toInt))
      (ids.filter (lies seek.side anchor)) = listing (ids.filter (lies seek.side anchor)) true := by
    rw [listing]
    congr 1
  rw [select, ascending]
  cases descends seek with
  | true => rw [if_pos rfl, reverse_listing (distinct.filter _), listing_filter]
  | false => rw [if_neg Bool.false_ne_true, listing_filter, Bool.not_false]

theorem nodup_of_sorted {ascending : Bool} {ids : List Int64}
    (sorted : ids.Pairwise fun left right => precedes ascending left right = true) : ids.Nodup := by
  refine sorted.imp fun {left right} first same => ?_
  rw [same, precedes_irrefl] at first
  cases first

/-- The part of a listing past a number. -/
def past (ascending : Bool) (anchor : Int64) (ids : List Int64) : List Int64 :=
  ids.filter fun id => precedes ascending anchor id

/-- The part of a listing before a number. -/
def before (ascending : Bool) (anchor : Int64) (ids : List Int64) : List Int64 :=
  ids.filter fun id => precedes ascending id anchor

/-- What lies before a number in one direction lies past it in the other. -/
theorem before_eq_past (ascending : Bool) (anchor : Int64) (ids : List Int64) :
    before ascending anchor ids = past (!ascending) anchor ids :=
  List.filter_congr fun id _ => (precedes_not ascending anchor id).symm

theorem past_reverse (ascending : Bool) (anchor : Int64) (ids : List Int64) :
    past ascending anchor ids.reverse = (past ascending anchor ids).reverse :=
  List.filter_reverse

theorem lies_ahead (ascending : Bool) (anchor id : Int64) :
    lies (Side.ahead ascending) (some anchor) id = precedes ascending anchor id := by
  unfold lies compareTo Text.orderingOf precedes Side.ahead
  cases ascending with
  | true =>
      by_cases below : id.toInt < anchor.toInt
      · simp [below, Side.covers, Int.le_of_lt below]
      · by_cases above : anchor.toInt < id.toInt <;> simp [below, above, Side.covers]
  | false =>
      by_cases below : id.toInt < anchor.toInt
      · simp [below, Side.covers]
      · by_cases above : anchor.toInt < id.toInt <;> simp [below, above, Side.covers]

theorem filter_lies_none (side : Side) (ids : List Int64) : ids.filter (lies side none) = ids :=
  List.filter_eq_self.mpr fun _ _ => rfl

theorem filter_lies_ahead (ascending : Bool) (anchor : Int64) (ids : List Int64) :
    ids.filter (lies (Side.ahead ascending) (some anchor)) = past ascending anchor ids :=
  List.filter_congr fun id _ => lies_ahead ascending anchor id

theorem mem_past {ascending : Bool} {anchor id : Int64} {ids : List Int64} :
    id ∈ past ascending anchor ids ↔ id ∈ ids ∧ precedes ascending anchor id = true :=
  List.mem_filter

theorem past_sublist (ascending : Bool) (anchor : Int64) (ids : List Int64) :
    (past ascending anchor ids).Sublist ids :=
  List.filter_sublist

theorem exists_ends {ids : List Int64} (nonempty : ids ≠ []) :
    ∃ head last, ids.head? = some head ∧ ids.getLast? = some last := by
  obtain ⟨head, headed⟩ := Option.ne_none_iff_exists'.mp (mt List.head?_eq_none_iff.mp nonempty)
  obtain ⟨last, lasts⟩ := Option.ne_none_iff_exists'.mp (mt List.getLast?_eq_none_iff.mp nonempty)
  exact ⟨head, last, headed, lasts⟩

/-- The numbers past an anchor are the back of a sorted list. -/
theorem exists_append_past {ascending : Bool} {listed : List Int64}
    (sorted : listed.Pairwise fun left right => precedes ascending left right = true)
    (anchor : Int64) : ∃ front, listed = front ++ past ascending anchor listed := by
  induction listed with
  | nil => exact ⟨[], rfl⟩
  | cons head rest ih =>
      obtain ⟨heads, tails⟩ := List.pairwise_cons.mp sorted
      cases first : precedes ascending anchor head with
      | true =>
          have all : past ascending anchor (head :: rest) = head :: rest := by
            refine List.filter_eq_self.mpr (List.forall_mem_cons.mpr ⟨first, ?_⟩)
            exact fun id member => precedes_trans first (heads id member)
          exact ⟨[], by rw [all, List.nil_append]⟩
      | false =>
          obtain ⟨front, cut⟩ := ih tails
          have dropped : past ascending anchor (head :: rest) = past ascending anchor rest :=
            List.filter_cons_of_neg (Bool.eq_false_iff.mp first)
          exact ⟨head :: front, by rw [dropped, List.cons_append, ← cut]⟩

/-- The numbers before an anchor are the front of a sorted list. -/
theorem exists_append_before {ascending : Bool} {listed : List Int64}
    (sorted : listed.Pairwise fun left right => precedes ascending left right = true)
    (anchor : Int64) : ∃ back, listed = before ascending anchor listed ++ back := by
  obtain ⟨front, cut⟩ := exists_append_past (sorted_reverse sorted) anchor
  refine ⟨front.reverse, List.reverse_injective ?_⟩
  rw [List.reverse_append, List.reverse_reverse, before_eq_past, ← past_reverse, ← cut]

/-- Of a sorted list cut in two, the numbers past the last one of the front are the back. -/
theorem past_append {ascending : Bool} {front back : List Int64} {anchor : Int64}
    (sorted : (front ++ back).Pairwise fun left right => precedes ascending left right = true)
    (last : front.getLast? = some anchor) : past ascending anchor (front ++ back) = back := by
  obtain ⟨sortedFront, -, across⟩ := List.pairwise_append.mp sorted
  obtain ⟨init, rfl⟩ := List.getLast?_eq_some_iff.mp last
  have dropped : (init ++ [anchor]).filter (fun id => precedes ascending anchor id) = [] := by
    refine List.filter_eq_nil_iff.mpr fun id member later => ?_
    rcases List.mem_append.mp member with member | member
    · have earlier := (List.pairwise_append.mp sortedFront).2.2 id member anchor
        (List.mem_singleton_self anchor)
      rw [precedes_asymm earlier] at later
      cases later
    · rw [List.mem_singleton.mp member, precedes_irrefl] at later
      cases later
  have all : back.filter (fun id => precedes ascending anchor id) = back :=
    List.filter_eq_self.mpr fun id member =>
      across anchor (List.mem_append_right init (List.mem_singleton_self anchor)) id member
  rw [past, List.filter_append, dropped, all, List.nil_append]

/-- Of a sorted list cut in two, the numbers before the first one of the back are the front. -/
theorem before_append {ascending : Bool} {front back : List Int64} {anchor : Int64}
    (sorted : (front ++ back).Pairwise fun left right => precedes ascending left right = true)
    (head : back.head? = some anchor) : before ascending anchor (front ++ back) = front := by
  have turned := sorted_reverse sorted
  rw [List.reverse_append] at turned
  have beyond := past_append turned (List.getLast?_reverse.trans head)
  rwa [← List.reverse_append, past_reverse, ← before_eq_past, List.reverse_inj] at beyond

/-- Numbers past the last one of a sorted list go on with it. -/
theorem sorted_append {ascending : Bool} {front back : List Int64} {anchor : Int64}
    (sortedFront : front.Pairwise fun left right => precedes ascending left right = true)
    (last : front.getLast? = some anchor)
    (sortedBack : back.Pairwise fun left right => precedes ascending left right = true)
    (later : ∀ id ∈ back, precedes ascending anchor id = true) :
    (front ++ back).Pairwise fun left right => precedes ascending left right = true := by
  refine List.pairwise_append.mpr ⟨sortedFront, sortedBack, fun id member other beyond => ?_⟩
  obtain ⟨init, rfl⟩ := List.getLast?_eq_some_iff.mp last
  rcases List.mem_append.mp member with member | member
  · have earlier := (List.pairwise_append.mp sortedFront).2.2 id member anchor
      (List.mem_singleton_self anchor)
    exact precedes_trans earlier (later other beyond)
  · rw [List.mem_singleton.mp member]
    exact later other beyond

end KeysetPaging.Table
