/-!
# Sorting

Stable sorting, and the sorted list of distinct elements, by a strict order given as a Boolean
relation. Both insert one element at a time, so they run inside proofs as well. Membership in the list
of distinct elements is membership up to the order's ties.
-/

namespace KeysetPaging.Sorting

/-- Puts an element in front of the first one that is not before it. -/
def insert {α : Type} (before : α → α → Bool) (element : α) : List α → List α
  | [] => [element]
  | head :: rest =>
      if before head element then head :: insert before element rest
      else element :: head :: rest

/-- Sorts; elements that tie keep their places relative to each other. -/
def sort {α : Type} (before : α → α → Bool) : List α → List α
  | [] => []
  | head :: rest => insert before head (sort before rest)

/-- Puts an element into its place unless one that ties with it is there. -/
def insertNew {α : Type} (before : α → α → Bool) (element : α) : List α → List α
  | [] => [element]
  | head :: rest =>
      if before head element then head :: insertNew before element rest
      else if before element head then element :: head :: rest
      else head :: rest

/-- The elements in order, one of each tie. -/
def distinct {α : Type} (before : α → α → Bool) : List α → List α
  | [] => []
  | head :: rest => insertNew before head (distinct before rest)

theorem mem_insertNew {α : Type} {before : α → α → Bool}
    (tie : ∀ a b, before a b = false → before b a = false → a = b)
    {element other : α} {elements : List α} :
    other ∈ insertNew before element elements ↔ other = element ∨ other ∈ elements := by
  induction elements with
  | nil => simp [insertNew]
  | cons head rest ih =>
      unfold insertNew
      split
      · simp only [List.mem_cons, ih]
        exact or_left_comm
      · split
        · simp only [List.mem_cons]
        · rename_i notBefore notAfter
          have same : head = element :=
            tie head element (Bool.eq_false_iff.mpr notBefore) (Bool.eq_false_iff.mpr notAfter)
          simp [same]

theorem mem_distinct {α : Type} {before : α → α → Bool}
    (tie : ∀ a b, before a b = false → before b a = false → a = b)
    {element : α} {elements : List α} :
    element ∈ distinct before elements ↔ element ∈ elements := by
  induction elements with
  | nil => simp [distinct]
  | cons head rest ih => simp [distinct, mem_insertNew tie, ih]

end KeysetPaging.Sorting
