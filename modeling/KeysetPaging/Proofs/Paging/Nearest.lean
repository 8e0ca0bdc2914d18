import KeysetPaging.Proofs.Paging.Blocks
import KeysetPaging.Proofs.Paging.Entry

/-!
# Pages next to any number

With look-ahead a request is answered from wherever it starts, whether or not a row has the number
there: the page holds the numbers nearest to the start on the side that the request heads for, and it
carries a cursor on the far side exactly if the table has more there. A request backward carries it
only if, besides, its page is not shown as the first one.
-/

namespace KeysetPaging

namespace Approach

def isBackward : Approach → Bool
  | .start => false
  | .past _ _ => false
  | .before _ _ => true

/-- Whether a number lies on the side that a request heads for. -/
def Heads (ascending : Bool) (id : Int64) : Approach → Prop
  | .start => True
  | .past anchor _ => Table.precedes ascending anchor id = true
  | .before anchor _ => Table.precedes ascending id anchor = true

/-- The numbers that a request heads for and that do not fit its page, the nearest first. -/
def beyond (ascending : Bool) (ids : List Int64) (size : Nat) (approach : Approach) : List Int64 :=
  (approach.candidates ascending ids).drop size

section Table

variable {ascending : Bool} {ids : List Int64} {size : Nat} {approach : Approach}

theorem mem_candidates_iff {id : Int64} :
    id ∈ approach.candidates ascending ids ↔ id ∈ ids ∧ approach.Heads ascending id := by
  cases approach with
  | start => exact Table.mem_listing.trans (and_iff_left trivial).symm
  | past anchor page => exact Table.mem_past.trans (and_congr_left' Table.mem_listing)
  | before anchor page =>
      rw [candidates, List.mem_reverse, Table.before_eq_past, Table.mem_past, Table.mem_listing,
        Table.precedes_not]
      rfl

theorem candidates_eq_nil_iff :
    approach.candidates ascending ids = [] ↔ ∀ id ∈ ids, ¬approach.Heads ascending id := by
  simp only [List.eq_nil_iff_forall_not_mem, mem_candidates_iff, not_and]

theorem shown_eq_nil_iff (positive : 0 < size) :
    approach.shown ascending ids size = [] ↔ approach.candidates ascending ids = [] := by
  refine ⟨candidates_eq_nil_of_shown positive, fun noneAhead => ?_⟩
  refine List.eq_nil_iff_forall_not_mem.mpr fun id member => ?_
  have inside := mem_candidates_of_mem_shown member
  rw [noneAhead] at inside
  cases inside

theorem shown_of_forward (forward : approach.isBackward = false) :
    approach.shown ascending ids size = (approach.candidates ascending ids).take size := by
  cases approach with
  | start => rfl
  | past anchor page => rfl
  | before anchor page => cases forward

theorem shown_of_backward (backward : approach.isBackward = true) :
    approach.shown ascending ids size =
      ((approach.candidates ascending ids).take size).reverse := by
  cases approach with
  | start => cases backward
  | past anchor page => cases backward
  | before anchor page => rfl

/-- What a request forward heads for is the back of the listing. -/
theorem exists_append_candidates (ascending : Bool) (distinct : ids.Nodup)
    (forward : approach.isBackward = false) :
    ∃ front, Table.listing ids ascending = front ++ approach.candidates ascending ids := by
  cases approach with
  | start => exact ⟨[], rfl⟩
  | past anchor page =>
      exact Table.exists_append_past (Table.listing_sorted distinct ascending) anchor
  | before anchor page => cases forward

/-- What a request backward heads for is the front of the listing. -/
theorem exists_candidates_append (ascending : Bool) (distinct : ids.Nodup)
    (backward : approach.isBackward = true) :
    ∃ back, Table.listing ids ascending = (approach.candidates ascending ids).reverse ++ back := by
  cases approach with
  | start => cases backward
  | past anchor page => cases backward
  | before anchor page =>
      rw [candidates, List.reverse_reverse]
      exact Table.exists_append_before (Table.listing_sorted distinct ascending) anchor

/-- The numbers past the last one of a page forward are those that do not fit it. -/
theorem past_last (distinct : ids.Nodup) (forward : approach.isBackward = false) {last : Int64}
    (lasts : (approach.shown ascending ids size).getLast? = some last) :
    Table.past ascending last (Table.listing ids ascending) = approach.beyond ascending ids size := by
  have sorted := Table.listing_sorted distinct ascending
  obtain ⟨front, cut⟩ := exists_append_candidates ascending distinct forward
  rw [shown_of_forward forward] at lasts
  rw [← List.take_append_drop size (approach.candidates ascending ids), ← List.append_assoc] at cut
  rw [cut] at sorted ⊢
  exact Table.past_append sorted (by rw [List.getLast?_append, lasts, Option.some_or])

/-- The numbers before the first one of a page backward are those that do not fit it. -/
theorem before_head (distinct : ids.Nodup) (backward : approach.isBackward = true) {head : Int64}
    (headed : (approach.shown ascending ids size).head? = some head) :
    Table.before ascending head (Table.listing ids ascending) =
      (approach.beyond ascending ids size).reverse := by
  have sorted := Table.listing_sorted distinct ascending
  obtain ⟨back, cut⟩ := exists_candidates_append ascending distinct backward
  rw [shown_of_backward backward] at headed
  rw [← List.take_append_drop size (approach.candidates ascending ids), List.reverse_append,
    List.append_assoc] at cut
  rw [cut] at sorted ⊢
  exact Table.before_append sorted (by rw [List.head?_append, headed, Option.some_or])

theorem exists_mem_beyond_iff :
    (∃ id, id ∈ approach.beyond ascending ids size) ↔
      size < (approach.candidates ascending ids).length := by
  rw [← List.length_pos_iff_exists_mem, beyond, List.length_drop, Nat.sub_pos_iff_lt]

/-- A table has a number past the last one of a page forward exactly if not all fit the page. -/
theorem exists_past_last_iff (distinct : ids.Nodup) (forward : approach.isBackward = false)
    {last : Int64} (lasts : (approach.shown ascending ids size).getLast? = some last) :
    (∃ id ∈ ids, Table.precedes ascending last id = true) ↔
      size < (approach.candidates ascending ids).length := by
  rw [← exists_mem_beyond_iff, ← past_last distinct forward lasts]
  simp only [Table.mem_past, Table.mem_listing]

/-- A table has a number before the first one of a page backward exactly if not all fit the page. -/
theorem exists_before_head_iff (distinct : ids.Nodup) (backward : approach.isBackward = true)
    {head : Int64} (headed : (approach.shown ascending ids size).head? = some head) :
    (∃ id ∈ ids, Table.precedes ascending id head = true) ↔
      size < (approach.candidates ascending ids).length := by
  have turned : (∃ id, id ∈ approach.beyond ascending ids size) ↔
      ∃ id, id ∈ (approach.beyond ascending ids size).reverse :=
    exists_congr fun _ => List.mem_reverse.symm
  rw [← exists_mem_beyond_iff, turned, ← before_head distinct backward headed]
  simp only [Table.before_eq_past, Table.mem_past, Table.mem_listing, Table.precedes_not]

theorem ended_eq_false_iff {policy : Policy} (ahead : policy.endTest = .lookAhead) {size : UInt32}
    (few : ids.length < 4294967296) :
    approach.ended policy size ascending ids = false ↔
      size.toNat < (approach.candidates ascending ids).length := by
  rw [← Bool.not_eq_true, ended_iff ahead few, Nat.not_le]

end Table

theorem numberBefore_le_pageOne_iff {page : UInt32} :
    Page.numberBefore page ≤ pageOne ↔ page.toNat < 3 := by
  by_cases early : page ≤ pageOne
  · have bound := UInt32.le_iff_toNat_le.mp early
    rw [Page.numberBefore, if_pos early]
    exact iff_of_true (UInt32.le_refl pageOne) (Nat.lt_of_le_of_lt bound (by decide))
  · rw [UInt32.le_iff_toNat_le, Page.toNat_numberBefore early]
    exact Nat.sub_le_iff_le_add.trans Nat.lt_succ_iff.symm

/-- A page that holds the numbers nearest to where its request starts, on the side that the request
heads for, and that tells on its far side exactly whether the table has more there. It is empty, and
then without cursors, exactly if the table has no number on the side. -/
structure Exact {ρ : Type} (ascending : Bool) (row : Int64 → ρ) (ids : List Int64) (size : Nat)
    (approach : Approach) (page : Page ρ) : Prop where
  records : page.records = (approach.shown ascending ids size).map row
  empty_iff : page.records = [] ↔ ∀ id ∈ ids, ¬approach.Heads ascending id
  bare : page.records = [] → page.prevCursor = none ∧ page.nextCursor = none
  hasNext_iff : approach.isBackward = false → ∀ last,
    (approach.shown ascending ids size).getLast? = some last →
      (page.hasNext = true ↔ ∃ id ∈ ids, Table.precedes ascending last id = true)
  hasPrev_iff : ∀ anchor number, approach = .before anchor number → ∀ head,
    (approach.shown ascending ids size).head? = some head →
      (page.hasPrev = true ↔
        3 ≤ number.toNat ∧ ∃ id ∈ ids, Table.precedes ascending id head = true)

section Page

variable {ρ : Type} {row : Int64 → ρ} {ids : List Int64} {first : Query} {ascending : Bool}
  {approach : Approach} {policy : Policy}

theorem empty_iff_of_records (sized : 0 < first.size) {page : Page ρ}
    (records : page.records = (approach.shown ascending ids first.size.toNat).map row) :
    page.records = [] ↔ ∀ id ∈ ids, ¬approach.Heads ascending id := by
  rw [records, List.map_eq_nil_iff, shown_eq_nil_iff (UInt32.lt_iff_toNat_lt.mp sized),
    candidates_eq_nil_iff]

theorem exact_bare (sized : 0 < first.size)
    (empty : approach.shown ascending ids first.size.toNat = []) :
    approach.Exact ascending row ids first.size.toNat (Page.bare first uncounted) := by
  have records : (Page.bare (ρ := ρ) first uncounted).records =
      (approach.shown ascending ids first.size.toNat).map row := by
    rw [empty]
    rfl
  refine ⟨records, empty_iff_of_records sized records, fun _ => ⟨rfl, rfl⟩, ?_, ?_⟩
  · intro _ last lasts
    rw [empty] at lasts
    cases lasts
  · intro _ _ _ head headed
    rw [empty] at headed
    cases headed

theorem forward_of_isBackward (bare : first.heading = .first)
    (forward : approach.isBackward = false) : (approach.query first).heading ≠ .backward := by
  cases approach with
  | start => exact start_forward bare
  | past anchor page => exact past_forward first anchor page
  | before anchor page => cases forward

theorem exact_placed (bare : first.heading = .first) (sized : 0 < first.size)
    (ahead : policy.endTest = .lookAhead) (distinct : ids.Nodup) (few : ids.length < 4294967296)
    {head last : Int64} (headed : (approach.shown ascending ids first.size.toNat).head? = some head)
    (lasts : (approach.shown ascending ids first.size.toNat).getLast? = some last) (total : Int64) :
    approach.Exact ascending row ids first.size.toNat
      (Page.placed (approach.query first)
        ((approach.shown ascending ids first.size.toNat).map row) total
        (Page.neighbours (approach.query first) (approach.ended policy first.size ascending ids)
          (Table.decimal head) (Table.decimal last) approach.page)) where
  records := rfl
  empty_iff := empty_iff_of_records sized rfl
  bare := by
    intro empty
    rw [List.map_eq_nil_iff.mp empty] at headed
    cases headed
  hasNext_iff := by
    intro forward last' lasts'
    rw [exists_past_last_iff distinct forward lasts', ← ended_eq_false_iff ahead few]
    change (Page.Place.nextCursor _).isSome = true ↔ _
    have goes := forward_of_isBackward bare forward
    rw [nextCursor_neighbours bare]
    cases approach.ended policy first.size ascending ids <;> simp [goes]
  hasPrev_iff := by
    rintro anchor number rfl head' headed'
    rw [exists_before_head_iff distinct rfl headed', ← ended_eq_false_iff ahead few]
    change (Page.Place.prevCursor _).isSome = true ↔ _
    have early : (before anchor number).number ≤ pageOne ↔ number.toNat < 3 :=
      numberBefore_le_pageOne_iff
    rw [prevCursor_neighbours bare]
    cases (before anchor number).ended policy first.size ascending ids <;> simp [early]

variable {ε : Type} [CursorValued ρ] {source : Source Id ρ ε}

/-- A request over a source that honours seeks is answered by an exact page, if it counts from a page
with a number for the page behind. -/
theorem exists_answer_exact (honours : Honours source row ids) (distinct : ids.Nodup)
    (few : ids.length < 4294967296) (opens : first.Opens ascending)
    (positive : pageOne ≤ approach.page) (below : approach.page ≠ 4294967295)
    (ahead : policy.endTest = .lookAhead) {total : Option UInt64}
    (counted : Paging.countFor source (approach.query first) = .ok total) {carried : Int64}
    (carries : Page.carryTotal total = .ok carried) :
    ∃ page, Paging.answer policy source (approach.query first) = .ok page ∧
      approach.Exact ascending row ids first.size.toNat page := by
  simp only [answer_eq_ok_iff honours distinct opens positive]
  by_cases empty : approach.shown ascending ids first.size.toNat = []
  · exact ⟨_, ⟨total, counted, Or.inl ⟨empty, rfl⟩⟩, exact_bare opens.sized empty⟩
  · obtain ⟨head, last, headed, lasts⟩ := Table.exists_ends empty
    exact ⟨_, ⟨total, counted, Or.inr
      ⟨head, last, carried, headed, lasts, fun beyond => below beyond.2.2, carries, rfl⟩⟩,
      exact_placed opens.bare opens.sized ahead distinct few headed lasts carried⟩

end Page

theorem Enters.page_eq {first query : Query} {approach : Approach}
    (enters : approach.Enters first query) (bare : first.heading = .first)
    {found : Option Position} (anchored : query.anchor.outcome = .ok found) :
    found.elim pageOne Position.page = approach.page := by
  cases enters with
  | start =>
      rw [Query.anchor_of_first bare] at anchored
      cases anchored
      rfl
  | past accepted number =>
      obtain ⟨position, own, rfl⟩ := (Query.anchor_eq_ok_iff rfl).mp anchored
      rw [Except.ok.inj (own.symm.trans accepted)]
      rfl
  | before accepted number =>
      obtain ⟨position, own, rfl⟩ := (Query.anchor_eq_ok_iff rfl).mp anchored
      rw [Except.ok.inj (own.symm.trans accepted)]
      rfl

end Approach

/-- From the start and from any number, whether or not a row has it, look-ahead tells exactly whether
the table goes on behind the page. -/
theorem Query.Reachable.exists_exact {ρ ε : Type} [CursorValued ρ] {settings : Settings}
    {query : Query} (reachable : query.Reachable settings) (rows : query.demand.wantsRows = true)
    {found : Option Position} (anchored : query.anchor.outcome = .ok found)
    (numeric : ∀ position, found = some position → ∃ id, position.number = .ok id)
    (below : ∀ position, found = some position → position.page.toNat < 4294967295)
    {source : Source Id ρ ε} {row : Int64 → ρ} {ids : List Int64}
    (honours : Honours source row ids) (distinct : ids.Nodup) (few : ids.length < 4294967295)
    {total : Option UInt64} (counts : ∀ query, source.count query = .ok total)
    (fits : ∀ count, total = some count → count.toNat < 9223372036854775808)
    {policy : Policy} (ahead : policy.endTest = .lookAhead) :
    ∃ (approach : Approach) (ascending : Bool) (page : Page ρ),
      approach.Enters query.fromStart query ∧ query.ascending = .ok ascending ∧
        Paging.answer policy source query = .ok page ∧
        approach.Exact ascending row ids query.size.toNat page := by
  obtain ⟨approach, positive, enters⟩ :=
    Approach.exists_enters reachable.wellFormed anchored numeric
  obtain ⟨ascending, opens⟩ := reachable.fromStart.exists_opens rfl rows
  obtain ⟨carried, carries⟩ := Page.exists_carryTotal fits query.fromStart.demand.wantsTotal
  have small : approach.page ≠ 4294967295 := by
    rw [← enters.page_eq rfl anchored]
    rintro greatest
    cases found with
    | none => exact absurd greatest (by decide)
    | some position =>
        have bound := below position rfl
        rw [Option.elim_some] at greatest
        rw [greatest] at bound
        exact absurd bound (by decide)
  obtain ⟨page, answered, nearest⟩ := Approach.exists_answer_exact honours distinct
    (Nat.lt_succ_of_lt few) opens positive small ahead (Paging.countFor_query counts approach) carries
  exact ⟨approach, ascending, page, enters, opens.ascends,
    (enters.answer_iff honours counts opens positive).mpr answered, nearest⟩

/-- The request backward from a number that no row has, with the first page number at which a page
before its own can be told of. -/
theorem Query.Reachable.exists_exact_of_missing_row :
    ((Approach.before 4 3).query (Query.latest 2 [])).Reachable .standard ∧
      ((Approach.before 4 3).query (Query.latest 2 [])).demand.wantsRows = true ∧
      ((Approach.before 4 3).query (Query.latest 2 [])).anchor.outcome =
        .ok (some ⟨Table.decimal 4, 3⟩) ∧
      (∀ position : Position, some ⟨Table.decimal 4, 3⟩ = some position →
        ∃ id, position.number = .ok id) ∧
      (∀ position : Position, some ⟨Table.decimal 4, 3⟩ = some position →
        position.page.toNat < 4294967295) ∧
      Honours (Table.ofIds [1, 7, 3, 5, 6]).source Table.row [1, 7, 3, 5, 6] ∧
      [(1 : Int64), 7, 3, 5, 6].Nodup ∧ [(1 : Int64), 7, 3, 5, 6].length < 4294967295 ∧
      (∀ query, (Table.ofIds [1, 7, 3, 5, 6]).source.count query = .ok (some 5)) ∧
      (∀ count, some (5 : UInt64) = some count → count.toNat < 9223372036854775808) ∧
      Policy.standard.endTest = .lookAhead ∧
      ∃ (approach : Approach) (ascending : Bool) (page : Page Row),
        approach.Enters (Query.latest 2 []) ((Approach.before 4 3).query (Query.latest 2 [])) ∧
          (Query.latest 2 []).ascending = .ok ascending ∧
          Paging.answer .standard (Table.ofIds [1, 7, 3, 5, 6]).source
            ((Approach.before 4 3).query (Query.latest 2 [])) = .ok page ∧
          approach.Exact ascending Table.row [1, 7, 3, 5, 6] 2 page := by
  have positive : pageOne ≤ (Approach.before 4 3).page := by decide
  have reachable : ((Approach.before 4 3).query (Query.latest 2 [])).Reachable .standard :=
    .preceding _ (Query.latest_reachable 2 (by decide) (by decide) [])
  have anchored : ((Approach.before 4 3).query (Query.latest 2 [])).anchor.outcome =
      .ok (some ⟨Table.decimal 4, 3⟩) := Approach.anchor_query rfl positive
  have numeric : ∀ position : Position, some ⟨Table.decimal 4, 3⟩ = some position →
      ∃ id, position.number = .ok id := by
    rintro position ⟨⟩
    exact ⟨4, Table.number_decimal 4 3⟩
  have below : ∀ position : Position, some ⟨Table.decimal 4, 3⟩ = some position →
      position.page.toNat < 4294967295 := by
    rintro position ⟨⟩
    decide
  have honours : Honours (Table.ofIds [1, 7, 3, 5, 6]).source Table.row [1, 7, 3, 5, 6] :=
    Table.honours rfl rfl
  have distinct : [(1 : Int64), 7, 3, 5, 6].Nodup := by decide
  have few : [(1 : Int64), 7, 3, 5, 6].length < 4294967295 := by decide
  have counts : ∀ query, (Table.ofIds [1, 7, 3, 5, 6]).source.count query = .ok (some 5) :=
    fun _ => rfl
  have fits : ∀ count, some (5 : UInt64) = some count → count.toNat < 9223372036854775808 := by
    rintro count ⟨⟩
    decide
  exact ⟨reachable, rfl, anchored, numeric, below, honours, distinct, few, counts, fits, rfl,
    Query.Reachable.exists_exact reachable rfl anchored numeric below honours distinct few counts
      fits rfl⟩

end KeysetPaging
