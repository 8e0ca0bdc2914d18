/-!
# The order of texts

Texts compared by their code points: the first difference decides, and a text comes before every
text that continues it. This is the order of lists of characters, so it is strict and only equal texts
tie; it is also the order of the texts' bytes in UTF-8.
-/

namespace KeysetPaging.Text

/-- Whether the first text comes before the second. -/
def precedes : List Char → List Char → Bool
  | [], [] => false
  | [], _ :: _ => true
  | _ :: _, [] => false
  | a :: left, b :: right =>
      decide (a.toNat < b.toNat) || (a.toNat == b.toNat && precedes left right)

/-- The ordering of two things, from whether each comes before the other. -/
def orderingOf (before after : Bool) : Ordering :=
  if before then .lt else if after then .gt else .eq

/-- One text comes before another exactly if it is less as a list of characters. -/
theorem precedes_iff {left right : List Char} : precedes left right = true ↔ left < right := by
  fun_induction precedes left right with
  | case1 => exact iff_of_false Bool.false_ne_true (List.lt_irrefl [])
  | case2 b right => exact iff_of_true rfl (List.nil_lt_cons b right)
  | case3 a left => exact iff_of_false Bool.false_ne_true (List.not_lt_nil (a :: left))
  | case4 a left b right ih =>
      rw [Bool.or_eq_true, Bool.and_eq_true, decide_eq_true_iff, beq_iff_eq, Char.toNat_inj, ih,
        List.cons_lt_cons_iff]
      exact Iff.rfl

theorem not_precedes_iff {left right : List Char} :
    precedes left right = false ↔ ¬left < right := by
  rw [← Bool.not_eq_true, precedes_iff]

/-- Texts of which neither comes before the other are the same. -/
theorem eq_of_tie {left right : List Char} (notBefore : precedes left right = false)
    (notAfter : precedes right left = false) : left = right :=
  List.le_antisymm (List.not_lt.mp (not_precedes_iff.mp notAfter))
    (List.not_lt.mp (not_precedes_iff.mp notBefore))

end KeysetPaging.Text
