import Mathlib.Data.List.Basic

/-!
# Strides through a sorted list

A reader takes the front of a sorted list, then the front of the rows past the last one taken, and so
on. Past a row are those that a second relation puts there, and it need not be the relation that the
list is sorted by. The reader comes to an end either way, but returns the list exactly if the second
relation cuts the list where each block of the reader's size ends.
-/

namespace KeysetPaging

section Strides

variable {α : Type} {past : α → α → Bool} {size : Nat} {listed : List α}

/-- How often a reader went on, what it returned before, and what lies ahead of it. -/
inductive Strides (past : α → α → Bool) (size : Nat) (listed : List α) :
    Nat → List α → List α → Prop where
  | start : Strides past size listed 0 [] listed
  | stride {count : Nat} {returned ahead : List α} {last : α}
      (strides : Strides past size listed count returned ahead) (more : size < ahead.length)
      (lasts : (ahead.take size).getLast? = some last) :
      Strides past size listed (count + 1) (returned ++ ahead.take size) (listed.filter (past last))

/-- The rows past the last one of a block are those behind the block. -/
def Cuts (past : α → α → Bool) (size : Nat) (listed : List α) (place : Nat) : Prop :=
  ∀ last, ((listed.drop (place * size)).take size).getLast? = some last →
    listed.filter (past last) = listed.drop ((place + 1) * size)

/-- A list that is sorted by the second relation itself is cut everywhere. -/
theorem cuts_of_sorted (irrefl : ∀ row, past row row = false)
    (trans : ∀ a b c, past a b = true → past b c = true → past a c = true)
    (sorted : listed.Pairwise fun front back => past front back = true) (place : Nat) :
    Cuts past size listed place := by
  intro last lasts
  have cut := List.take_append_drop ((place + 1) * size) listed
  have block : listed.take ((place + 1) * size) =
      listed.take (place * size) ++ (listed.drop (place * size)).take size := by
    rw [Nat.succ_mul, List.take_add]
  obtain ⟨init, shape⟩ := List.getLast?_eq_some_iff.mp lasts
  rw [shape, ← List.append_assoc] at block
  rw [← cut, block] at sorted
  obtain ⟨front, -, across⟩ := List.pairwise_append.mp sorted
  have noneEarly : (listed.take ((place + 1) * size)).filter (past last) = [] := by
    refine List.filter_eq_nil_iff.mpr fun row member later => ?_
    rw [block] at member
    rcases List.mem_append.mp member with early | own
    · have back := trans _ _ _ later
        ((List.pairwise_append.mp front).2.2 row early last (List.mem_singleton_self last))
      rw [irrefl] at back
      cases back
    · rw [List.mem_singleton.mp own, irrefl] at later
      cases later
  have all : (listed.drop ((place + 1) * size)).filter (past last) =
      listed.drop ((place + 1) * size) :=
    List.filter_eq_self.mpr fun row member =>
      across last (List.mem_append_right _ (List.mem_singleton_self last)) row member
  rw [← all]
  conv => lhs; rw [← cut]
  rw [List.filter_append, noneEarly, List.nil_append]

namespace Strides

variable {count : Nat} {returned ahead : List α} {last : α}

theorem ahead_sublist (strides : Strides past size listed count returned ahead) :
    ahead.Sublist listed := by
  cases strides with
  | start => exact List.Sublist.refl _
  | stride strides more lasts => exact List.filter_sublist

theorem length_returned (strides : Strides past size listed count returned ahead) :
    returned.length = count * size := by
  induction strides with
  | start => rw [Nat.zero_mul, List.length_nil]
  | stride strides more lasts ih =>
      rw [List.length_append, ih, List.length_take, Nat.min_eq_left (Nat.le_of_lt more),
        Nat.succ_mul]

theorem mem_ahead_of_lasts (lasts : (ahead.take size).getLast? = some last) : last ∈ ahead :=
  List.mem_of_mem_take (List.mem_of_getLast? lasts)

theorem length_filter_lt (irrefl : ∀ row, past row row = false) (member : last ∈ ahead) :
    (ahead.filter (past last)).length < ahead.length := by
  refine List.length_filter_lt_length_iff_exists.mpr ⟨last, member, ?_⟩
  rw [irrefl]
  exact Bool.false_ne_true

/-- Where nothing was lost and nothing came twice, a reader stands behind its blocks. -/
theorem ahead_eq_drop (strides : Strides past size listed count returned ahead)
    (whole : returned ++ ahead = listed) : ahead = listed.drop (count * size) := by
  rw [← whole, ← strides.length_returned, List.drop_left]

section Transitive

variable (trans : ∀ a b c, past a b = true → past b c = true → past a c = true)
include trans

/-- What lies past a row ahead was ahead already. -/
theorem filter_ahead (strides : Strides past size listed count returned ahead)
    (member : last ∈ ahead) : ahead.filter (past last) = listed.filter (past last) := by
  cases strides with
  | start => rfl
  | stride strides more lasts =>
      rw [List.filter_filter]
      refine List.filter_congr fun row _ => ?_
      rw [Bool.and_eq_left_iff_imp]
      exact trans _ _ _ (List.mem_filter.mp member).2

/-- A reader goes on at most as often as there are rows. -/
theorem count_add_length_le (irrefl : ∀ row, past row row = false)
    (strides : Strides past size listed count returned ahead) :
    count + ahead.length ≤ listed.length := by
  induction strides with
  | start => exact Nat.le_of_eq (Nat.zero_add _)
  | @stride count returned ahead last strides more lasts ih =>
      have member := mem_ahead_of_lasts lasts
      have fewer := length_filter_lt irrefl member
      rw [← strides.filter_ahead trans member]
      omega

section Sorted

variable {precedes : α → α → Prop} (asymm : ∀ a b, precedes a b → ¬precedes b a)
  (sorted : listed.Pairwise precedes)
include asymm sorted

omit trans in
theorem nodup_of_sorted : listed.Nodup := by
  refine sorted.imp fun {a b} first same => ?_
  rw [same] at first
  exact asymm b b first first

section Whole

variable (strides : Strides past size listed count returned ahead)
  (lasts : (ahead.take size).getLast? = some last)
  (whole : returned ++ ahead.take size ++ listed.filter (past last) = listed)
include strides lasts whole

omit trans in
/-- A row ahead that the page does not show lies past the page, for it was not returned before. -/
theorem mem_filter_of_mem_drop {row : α} (member : row ∈ ahead.drop size) :
    row ∈ listed.filter (past last) := by
  have ordered := sorted.sublist strides.ahead_sublist
  rw [← List.take_append_drop size ahead] at ordered
  have follows := (List.pairwise_append.mp ordered).2.2
  have last_mem := List.mem_of_getLast? lasts
  have stored := strides.ahead_sublist.mem (List.mem_of_mem_drop member)
  have front := sorted
  rw [← whole, List.append_assoc] at stored front
  rcases List.mem_append.mp stored with early | rest
  · have before := (List.pairwise_append.mp front).2.2 row early last
      (List.mem_append_left _ last_mem)
    exact absurd before (asymm _ _ (follows last last_mem row member))
  · rcases List.mem_append.mp rest with shown | next
    · have first := follows row shown row member
      exact absurd first (asymm _ _ first)
    · exact next

/-- A row past the page was ahead, and the page does not show it. -/
theorem mem_drop_of_mem_filter {row : α} (member : row ∈ listed.filter (past last)) :
    row ∈ ahead.drop size := by
  have apart := nodup_of_sorted asymm sorted
  rw [← whole] at apart
  have held := member
  rw [← strides.filter_ahead trans (mem_ahead_of_lasts lasts)] at held
  have stays := (List.mem_filter.mp held).1
  rw [← List.take_append_drop size ahead] at stays
  rcases List.mem_append.mp stays with shown | rest
  · exact absurd rfl
      ((List.nodup_append.mp apart).2.2 row (List.mem_append_right _ shown) row member)
  · exact rest

/-- If what a reader returned and what lies past the last row of its page are the whole list, they
leave out nothing that was ahead. -/
theorem drop_eq_of_whole : ahead.drop size = listed.filter (past last) := by
  have distinct := nodup_of_sorted asymm sorted
  have behind := (List.drop_sublist size ahead).trans strides.ahead_sublist
  refine List.Perm.eq_of_pairwise (fun a b _ _ one two => absurd two (asymm a b one))
    (sorted.sublist behind) (sorted.sublist List.filter_sublist) ?_
  exact (List.perm_ext_iff_of_nodup (distinct.sublist behind)
    (distinct.sublist List.filter_sublist)).mpr fun row =>
      ⟨strides.mem_filter_of_mem_drop asymm sorted lasts whole,
        strides.mem_drop_of_mem_filter trans asymm sorted lasts whole⟩

end Whole

/-- Nothing is lost and nothing comes twice exactly if every block so far ends where the list is
cut. -/
theorem whole_iff (strides : Strides past size listed count returned ahead) :
    returned ++ ahead = listed ↔ ∀ place < count, Cuts past size listed place := by
  induction strides with
  | start => simp
  | @stride count returned ahead last strides more lasts ih =>
      constructor
      · intro whole
        -- What was lost once never lies ahead again, so all is there now only if it was before.
        have rest := strides.drop_eq_of_whole trans asymm sorted lasts whole
        have before : returned ++ ahead = listed := by
          rw [← rest, List.append_assoc, List.take_append_drop] at whole
          exact whole
        have behind := strides.ahead_eq_drop before
        intro place earlier
        rcases Nat.lt_or_eq_of_le (Nat.le_of_lt_succ earlier) with earlier | rfl
        · exact ih.mp before place earlier
        · intro other ends
          rw [← behind, lasts] at ends
          cases ends
          rw [← rest, behind, List.drop_drop, Nat.succ_mul]
      · intro cuts
        have before := ih.mpr fun place earlier => cuts place (Nat.lt_succ_of_lt earlier)
        have behind := strides.ahead_eq_drop before
        have cut := cuts count (Nat.lt_succ_self count) last (by rwa [← behind])
        rw [cut, Nat.succ_mul, ← List.drop_drop, ← behind, List.append_assoc,
          List.take_append_drop]
        exact before

/-- A reader that came to its end has returned the list exactly if the list is cut where each of its
blocks ends. -/
theorem complete_iff (strides : Strides past size listed count returned ahead)
    (ends : ahead.length ≤ size) :
    returned ++ ahead = listed ↔
      ∀ place, (place + 1) * size < listed.length → Cuts past size listed place := by
  constructor
  · intro whole place inside
    refine (strides.whole_iff trans asymm sorted).mp whole place ?_
    rw [← whole, List.length_append, strides.length_returned] at inside
    have bound : (place + 1) * size < (count + 1) * size := by
      rw [Nat.succ_mul count]
      omega
    exact Nat.lt_of_succ_lt_succ (Nat.lt_of_mul_lt_mul_right bound)
  · intro cuts
    -- That the reader came to its end is not known of its earlier stages, and is not needed.
    clear ends
    induction strides with
    | start => rfl
    | @stride count returned ahead last strides more lasts ih =>
        refine ((strides.stride more lasts).whole_iff trans asymm sorted).mpr fun place earlier => ?_
        rcases Nat.lt_or_eq_of_le (Nat.le_of_lt_succ earlier) with earlier | rfl
        · exact (strides.whole_iff trans asymm sorted).mp ih place earlier
        · refine cuts place ?_
          rw [← ih, List.length_append, strides.length_returned, Nat.succ_mul]
          omega

end Sorted

end Transitive

end Strides

end Strides

end KeysetPaging
