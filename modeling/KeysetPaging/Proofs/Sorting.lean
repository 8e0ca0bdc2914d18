import KeysetPaging.Sorting
import Mathlib.Data.List.Chain
import Mathlib.Data.List.Sort

/-!
# What sorting keeps

Sorting is insertion sort. For a strict order in which not coming before is transitive, it puts
nothing behind an element that comes before it, leaves elements that tie in the order in which they
came, and may be done before or after elements are dropped. A sorted list is determined by the
elements of each tie. The distinct elements of a list come each before the next, for any order.
-/

namespace KeysetPaging.Sorting

/-- A strict order up to ties: of two elements at most one comes before the other, and an element
that is not before a second, which is not before a third, is not before the third. -/
structure IsOrder {α : Type} (before : α → α → Bool) : Prop where
  asymm : ∀ {a b : α}, before a b = true → before b a = false
  trans : ∀ {a b c : α}, before a b = false → before b c = false → before a c = false

/-- Whether an element may stand in front of another: the other does not come before it. -/
def InOrder {α : Type} (before : α → α → Bool) (front back : α) : Prop :=
  before back front = false

instance {α : Type} {before : α → α → Bool} : DecidableRel (InOrder before) :=
  fun front back => inferInstanceAs (Decidable (before back front = false))

/-- No element of a list comes before one that stands in front of it. -/
def Sorted {α : Type} (before : α → α → Bool) (elements : List α) : Prop :=
  elements.Pairwise fun front back => before back front = false

section Insertion

variable {α : Type} {before : α → α → Bool}

theorem IsOrder.total (order : IsOrder before) : Std.Total (InOrder before) where
  total front back := by
    cases first : before back front with
    | true => exact Or.inr (order.asymm first)
    | false => exact Or.inl first

theorem IsOrder.isTrans (order : IsOrder before) : IsTrans α (InOrder before) where
  trans _ _ _ one two := order.trans two one

theorem insert_eq_orderedInsert (before : α → α → Bool) (element : α) (elements : List α) :
    insert before element elements = elements.orderedInsert (InOrder before) element := by
  induction elements with
  | nil => rfl
  | cons head rest ih =>
      rw [insert, List.orderedInsert_cons, ih]
      cases first : before head element <;> simp [first, InOrder]

/-- Sorting is insertion sort. -/
theorem sort_eq_insertionSort (before : α → α → Bool) (elements : List α) :
    sort before elements = elements.insertionSort (InOrder before) := by
  induction elements with
  | nil => rfl
  | cons head rest ih => rw [sort, ih, insert_eq_orderedInsert, List.insertionSort_cons]

theorem sort_perm (before : α → α → Bool) (elements : List α) :
    (sort before elements).Perm elements := by
  rw [sort_eq_insertionSort]
  exact List.perm_insertionSort _ elements

theorem sort_sorted (order : IsOrder before) (elements : List α) :
    Sorted before (sort before elements) := by
  have := order.total
  have := order.isTrans
  rw [sort_eq_insertionSort]
  exact List.pairwise_insertionSort (InOrder before) elements

/-- Sorting keeps elements that tie in the order in which they came. -/
theorem filter_sort_of_tie {keeps : α → Bool}
    (tie : ∀ a b, keeps a = true → keeps b = true → before a b = false) (elements : List α) :
    (sort before elements).filter keeps = elements.filter keeps := by
  have tied : (elements.filter keeps).Pairwise (InOrder before) :=
    List.pairwise_of_forall_mem_list fun front inFront back inBack =>
      tie back front (List.mem_filter.mp inBack).2 (List.mem_filter.mp inFront).2
  -- The elements that tie are a sorted part of the list, and sorting keeps such a part as it is.
  have kept := (List.sublist_insertionSort tied List.filter_sublist).filter keeps
  rw [List.filter_filter, ← sort_eq_insertionSort] at kept
  simp only [Bool.and_self] at kept
  exact (kept.eq_of_length ((sort_perm before elements).filter keeps).length_eq.symm).symm

theorem sort_filter_sublist (order : IsOrder before) (keeps : α → Bool) (elements : List α) :
    (sort before (elements.filter keeps)).Sublist (sort before elements) := by
  have := order.isTrans
  induction elements with
  | nil => exact List.Sublist.slnil
  | cons head rest ih =>
      rw [List.filter_cons]
      split
      · rw [sort, sort, insert_eq_orderedInsert, insert_eq_orderedInsert]
        exact ih.orderedInsert_sublist head (sort_sorted order rest)
      · rw [sort, insert_eq_orderedInsert]
        exact ih.trans (List.sublist_orderedInsert head _)

/-- Elements may be dropped before sorting as well as behind it. -/
theorem filter_sort (order : IsOrder before) (keeps : α → Bool) (elements : List α) :
    (sort before elements).filter keeps = sort before (elements.filter keeps) := by
  have sorted := sort_perm before (elements.filter keeps)
  have all : (sort before (elements.filter keeps)).filter keeps =
      sort before (elements.filter keeps) :=
    List.filter_eq_self.mpr fun element member =>
      (List.mem_filter.mp (sorted.mem_iff.mp member)).2
  have kept := (sort_filter_sublist order keeps elements).filter keeps
  rw [all] at kept
  refine (kept.eq_of_length ?_).symm
  rw [sorted.length_eq, ((sort_perm before elements).filter keeps).length_eq]

end Insertion

theorem mem_head?_insertNew {α : Type} {before : α → α → Bool} {element first : α}
    {elements : List α} (leads : first ∈ (insertNew before element elements).head?) :
    first = element ∨ first ∈ elements.head? := by
  cases elements with
  | nil => exact Or.inl (Option.some.inj leads).symm
  | cons head rest =>
      unfold insertNew at leads
      split at leads
      · exact Or.inr leads
      · split at leads
        · exact Or.inl (Option.some.inj leads).symm
        · exact Or.inr leads

theorem insertNew_isChain {α : Type} {before : α → α → Bool} {element : α} {elements : List α}
    (chain : elements.IsChain fun front back => before front back = true) :
    (insertNew before element elements).IsChain fun front back => before front back = true := by
  induction elements with
  | nil => exact List.isChain_singleton element
  | cons head rest ih =>
      obtain ⟨linked, chained⟩ := List.isChain_cons.mp chain
      unfold insertNew
      split
      · rename_i behind
        refine List.isChain_cons.mpr ⟨fun next leads => ?_, ih chained⟩
        rcases mem_head?_insertNew leads with rfl | leads
        · exact behind
        · exact linked next leads
      · split
        · rename_i first
          exact List.isChain_cons_cons.mpr ⟨first, chain⟩
        · exact chain

/-- Of the distinct elements each comes before the next. -/
theorem distinct_isChain {α : Type} (before : α → α → Bool) (elements : List α) :
    (distinct before elements).IsChain fun front back => before front back = true := by
  induction elements with
  | nil => exact List.isChain_nil
  | cons head rest ih => exact insertNew_isChain ih

section Keys

variable {α κ : Type} [DecidableEq κ] {less : κ → κ → Bool} {key : α → κ}

/-- The elements of a list that have the given key. -/
def withKey (key : α → κ) (name : κ) (elements : List α) : List α :=
  elements.filter fun element => decide (key element = name)

/-- The first elements of two sorted lists have one key if every key has equally many elements. -/
theorem key_head_eq (order : IsOrder less)
    (tie : ∀ a b, less a b = false → less b a = false → a = b) {left right : α}
    {lefts rights : List α} (sortedLeft : Sorted (fun a b => less (key a) (key b)) (left :: lefts))
    (sortedRight : Sorted (fun a b => less (key a) (key b)) (right :: rights))
    (same : ∀ name, withKey key name (left :: lefts) = withKey key name (right :: rights)) :
    key left = key right := by
  -- Each head occurs in the other list, so neither key can come before the other.
  have notAfter : ∀ {one other : α} {ones others : List α},
      Sorted (fun a b => less (key a) (key b)) (other :: others) →
      withKey key (key one) (one :: ones) = withKey key (key one) (other :: others) →
      less (key one) (key other) = false := by
    intro one other ones others sorted alike
    have held : one ∈ withKey key (key one) (one :: ones) :=
      List.mem_filter.mpr ⟨List.mem_cons_self, decide_eq_true rfl⟩
    rw [alike] at held
    rcases List.mem_cons.mp (List.mem_filter.mp held).1 with rfl | member
    · refine Bool.eq_false_iff.mpr fun first => ?_
      have back := order.asymm first
      rw [first] at back
      cases back
    · exact (List.pairwise_cons.mp sorted).1 one member
  exact tie _ _ (notAfter sortedRight (same (key left)))
    (notAfter sortedLeft (same (key right)).symm)

/-- A sorted list is determined by the elements of each key. -/
theorem eq_of_withKey_eq (order : IsOrder less)
    (tie : ∀ a b, less a b = false → less b a = false → a = b) {left right : List α}
    (sortedLeft : Sorted (fun a b => less (key a) (key b)) left)
    (sortedRight : Sorted (fun a b => less (key a) (key b)) right)
    (same : ∀ name, withKey key name left = withKey key name right) : left = right := by
  induction left generalizing right with
  | nil =>
      cases right with
      | nil => rfl
      | cons head rest =>
          have lost := same (key head)
          simp [withKey] at lost
  | cons head rest ih =>
      cases right with
      | nil =>
          have lost := same (key head)
          simp [withKey] at lost
      | cons other others =>
          have keys := key_head_eq order tie sortedLeft sortedRight same
          have heads := same (key head)
          simp only [withKey, List.filter_cons, keys, decide_true, if_true, List.cons.injEq]
            at heads
          obtain ⟨rfl, _⟩ := heads
          have rests : rest = others := by
            refine ih (List.pairwise_cons.mp sortedLeft).2 (List.pairwise_cons.mp sortedRight).2 ?_
            intro name
            have both := same name
            by_cases here : key head = name
            · simpa [withKey, here] using both
            · simpa [withKey, here] using both
          rw [rests]

end Keys

end KeysetPaging.Sorting
