import KeysetPaging.Text.Split

/-!
# What a joined text tells about its parts

Texts joined by a separator that occurs in none of them are found again by splitting, so a joined
text determines its parts; only no text at all and one empty text are joined to the same. Two texts
with one separator between them determine both parts as long as the separator does not occur in the
first. If it may occur there, the same text is put together in a second way exactly if the first
part of one way goes on behind a separator where the first part of the other ends.
-/

namespace KeysetPaging.Text

theorem join_eq_intercalate (separator : Char) (texts : List (List Char)) :
    join separator texts = [separator].intercalate texts := by
  fun_induction join separator texts with
  | case1 => rfl
  | case2 text => rw [List.intercalate_singleton]
  | case3 text next rest ih => rw [List.intercalate_cons_cons, ← ih, List.append_assoc]; rfl

/-- A joined text starts with its first part. -/
theorem exists_join_cons (separator : Char) (text : List Char) (rest : List (List Char)) :
    ∃ tail, join separator (text :: rest) = text ++ tail := by
  cases rest with
  | nil => exact ⟨[], (List.append_nil text).symm⟩
  | cons next rest => exact ⟨separator :: join separator (next :: rest), rfl⟩

/-- A character of a joined text is the separator or one of a joined part. -/
theorem mem_join {separator c : Char} {texts : List (List Char)}
    (member : c ∈ join separator texts) : c = separator ∨ ∃ text ∈ texts, c ∈ text := by
  fun_induction join separator texts with
  | case1 => cases member
  | case2 text => exact Or.inr ⟨text, List.mem_singleton_self text, member⟩
  | case3 text next rest ih =>
      rcases List.mem_append.mp member with member | member
      · exact Or.inr ⟨text, List.mem_cons_self, member⟩
      · rcases List.mem_cons.mp member with same | member
        · exact Or.inl same
        · rcases ih member with same | ⟨other, inside, member⟩
          · exact Or.inl same
          · exact Or.inr ⟨other, List.mem_cons_of_mem text inside, member⟩

/-- Splitting finds the joined texts again. -/
theorem splitOn_join {separator : Char} {texts : List (List Char)}
    (free : ∀ text ∈ texts, separator ∉ text) (nonempty : texts ≠ []) :
    (join separator texts).splitOn separator = texts := by
  rw [join_eq_intercalate]
  exact List.splitOn_intercalate separator free nonempty

theorem join_inj {separator : Char} {left right : List (List Char)}
    (freeLeft : ∀ text ∈ left, separator ∉ text) (freeRight : ∀ text ∈ right, separator ∉ text)
    (nonemptyLeft : left ≠ []) (nonemptyRight : right ≠ [])
    (same : join separator left = join separator right) : left = right := by
  rw [← splitOn_join freeLeft nonemptyLeft, same, splitOn_join freeRight nonemptyRight]

/-- Elements are determined by their joined spellings if each spelling determines its element. -/
theorem join_map_inj {α : Type} {separator : Char} {spell : α → List Char}
    (free : ∀ element, separator ∉ spell element)
    (inj : ∀ {element other : α}, spell element = spell other → element = other)
    {left right : List α} (nonemptyLeft : left ≠ []) (nonemptyRight : right ≠ [])
    (same : join separator (left.map spell) = join separator (right.map spell)) : left = right := by
  have spellings : ∀ elements : List α, ∀ text ∈ elements.map spell, separator ∉ text := by
    intro elements text member
    obtain ⟨element, _, rfl⟩ := List.mem_map.mp member
    exact free element
  have parts := join_inj (spellings left) (spellings right)
    (mt List.map_eq_nil_iff.mp nonemptyLeft) (mt List.map_eq_nil_iff.mp nonemptyRight) same
  exact (List.map_inj_right fun _ _ => inj).mp parts

theorem join_eq_nil_iff {separator : Char} {texts : List (List Char)} :
    join separator texts = [] ↔ texts = [] ∨ texts = [[]] := by
  cases texts with
  | nil => simp [join]
  | cons text rest => cases rest <;> simp [join]

/-- Texts of which none is empty are determined by what they are joined to. -/
theorem join_inj_of_ne_nil {separator : Char} {left right : List (List Char)}
    (freeLeft : ∀ text ∈ left, separator ∉ text) (freeRight : ∀ text ∈ right, separator ∉ text)
    (solidLeft : [] ∉ left) (solidRight : [] ∉ right)
    (same : join separator left = join separator right) : left = right := by
  by_cases emptyLeft : left = []
  · subst emptyLeft
    rcases join_eq_nil_iff.mp same.symm with nothing | one
    · exact nothing.symm
    · exact absurd (one ▸ List.mem_singleton_self []) solidRight
  · by_cases emptyRight : right = []
    · subst emptyRight
      rcases join_eq_nil_iff.mp same with nothing | one
      · exact nothing
      · exact absurd (one ▸ List.mem_singleton_self []) solidLeft
    · exact join_inj freeLeft freeRight emptyLeft emptyRight same

/-- Both parts are determined if the separator does not occur in the first. -/
theorem append_separator_inj {separator : Char} {before after before' after' : List Char}
    (free : separator ∉ before) (free' : separator ∉ before')
    (same : before ++ separator :: after = before' ++ separator :: after') :
    before = before' ∧ after = after' := by
  have cut := splitFirst?_append free after
  rw [same, splitFirst?_append free'] at cut
  simp only [Option.some.injEq, Prod.mk.injEq] at cut
  exact ⟨cut.1.symm, cut.2.symm⟩

/-- A joined text that goes on, with another character than the separator, where a second joined text
ends has the parts of the second, the last of them continued, before its other parts. -/
theorem join_eq_join_append {separator c : Char} (other : c ≠ separator)
    {left right : List (List Char)} {gap : List Char}
    (freeLeft : ∀ text ∈ left, separator ∉ text) (freeRight : ∀ text ∈ right, separator ∉ text)
    (nonempty : right ≠ []) (same : join separator left = join separator right ++ c :: gap) :
    ∃ front last more back,
      right = front ++ [last] ∧ left = front ++ (last ++ c :: more) :: back := by
  induction right generalizing left with
  | nil => exact absurd rfl nonempty
  | cons text rest ih =>
      cases left with
      | nil => cases List.append_eq_nil_iff.mp same.symm |>.2
      | cons first others =>
          rw [List.forall_mem_cons] at freeLeft freeRight
          cases rest with
          | nil =>
              cases others with
              | nil =>
                  obtain rfl : first = text ++ c :: gap := same
                  exact ⟨[], text, gap, [], rfl, rfl⟩
              | cons next back =>
                  rw [join, join] at same
                  rcases List.append_eq_append_iff.mp same with
                    ⟨more, longer, tail⟩ | ⟨more, longer, tail⟩
                  · cases more with
                    | nil => exact absurd (List.cons.inj tail).1.symm other
                    | cons d more =>
                        refine absurd ?_ freeRight.1
                        rw [longer, (List.cons.inj tail).1]
                        exact List.mem_append_right first List.mem_cons_self
                  · cases more with
                    | nil => exact absurd (List.cons.inj tail).1 other
                    | cons d more =>
                        refine ⟨[], text, more, next :: back, rfl, ?_⟩
                        rw [longer, (List.cons.inj tail).1]
                        rfl
          | cons next rest =>
              cases others with
              | nil =>
                  refine absurd ?_ freeLeft.1
                  rw [show first = _ from same, join]
                  exact List.mem_append_left _ (List.mem_append_right text List.mem_cons_self)
              | cons following others =>
                  rw [join, join, List.append_assoc, List.cons_append] at same
                  obtain ⟨rfl, tails⟩ := append_separator_inj freeLeft.1 freeRight.1 same
                  obtain ⟨front, last, more, back, shape, longer⟩ :=
                    ih freeLeft.2 freeRight.2 (List.cons_ne_nil next rest) tails
                  exact ⟨first :: front, last, more, back, by rw [shape]; rfl, by rw [longer]; rfl⟩

/-- The ways in which one text is two parts around a separator. -/
theorem append_separator_eq_iff {separator : Char} {before after before' after' : List Char} :
    before ++ separator :: after = before' ++ separator :: after' ↔
      (before = before' ∧ after = after') ∨
      (∃ middle, before = before' ++ separator :: middle ∧
        after' = middle ++ separator :: after) ∨
      (∃ middle, before' = before ++ separator :: middle ∧
        after = middle ++ separator :: after') := by
  constructor
  · intro same
    rcases List.append_eq_append_iff.mp same with ⟨gap, longer, back⟩ | ⟨gap, longer, back⟩
    · cases gap with
      | nil =>
          refine Or.inl ⟨by simpa using longer.symm, ?_⟩
          exact (List.cons.inj back).2
      | cons c middle =>
          obtain ⟨rfl, rest⟩ := List.cons.inj back
          exact Or.inr (Or.inr ⟨middle, longer, rest⟩)
    · cases gap with
      | nil =>
          refine Or.inl ⟨by simpa using longer, ?_⟩
          exact (List.cons.inj back).2.symm
      | cons c middle =>
          obtain ⟨rfl, rest⟩ := List.cons.inj back
          exact Or.inr (Or.inl ⟨middle, longer, rest⟩)
  · rintro (⟨rfl, rfl⟩ | ⟨middle, rfl, rfl⟩ | ⟨middle, rfl, rfl⟩)
    · rfl
    · rw [List.append_assoc, List.cons_append]
    · rw [List.append_assoc, List.cons_append]

end KeysetPaging.Text
