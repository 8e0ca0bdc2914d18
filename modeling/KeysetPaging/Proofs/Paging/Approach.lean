import KeysetPaging.Proofs.Cursor.RoundTrip
import KeysetPaging.Proofs.Paging.Serving
import KeysetPaging.Proofs.Seek
import KeysetPaging.Proofs.Table.Listing

/-!
# Requests over tables of numbers

A request of a walk comes from the start, past a number or before one, and carries the number of a
page in its cursor. Its cursor verifies whenever it was made for a query of the same shape, and over a
source that honours seeks it is answered by the front of the part of the table it heads for.
-/

namespace KeysetPaging

/-- How a page is approached: from the start, or from a cursor that marks a number and a page. -/
inductive Approach where
  | start
  | past (id : Int64) (page : UInt32)
  | before (id : Int64) (page : UInt32)

/-- A query for the rows of the first page, whose order tells whether the cursor field ascends. -/
structure Query.Opens (first : Query) (ascending : Bool) : Prop where
  bare : first.heading = .first
  rows : first.demand.wantsRows = true
  sized : 0 < first.size
  ascends : first.ascending = .ok ascending

theorem Query.Reachable.exists_opens {settings : Settings} {first : Query}
    (reachable : first.Reachable settings) (bare : first.heading = .first)
    (rows : first.demand.wantsRows = true) : ∃ ascending, first.Opens ascending := by
  obtain ⟨ascending, ascends⟩ := reachable.wellFormed.exists_ascending
  exact ⟨ascending, bare, rows, reachable.wellFormed.size_pos, ascends⟩

/-- A source whose rows are the numbers of a table, and which honours the seeks it is asked for: it
hands out the rows that the table selects. -/
structure Honours {ρ ε : Type} [CursorValued ρ] (source : Source Id ρ ε) (row : Int64 → ρ)
    (ids : List Int64) : Prop where
  valued : ∀ id ∈ ids, cursorValue (row id) = some (Table.decimal id)
  fetched : ∀ query seek anchor, Table.anchorOf seek = .ok anchor →
    source.fetch query seek = .ok ((Table.select ids seek anchor).map row)

/-- A table that is online and hands out its own numbers honours seeks. -/
theorem Table.honours {table : Table} (online : table.offline = false)
    (own : table.canned = none) : Honours table.source Table.row table.ids where
  valued := fun _ _ => rfl
  fetched := by
    intro query seek anchor found
    change table.fetch seek = _
    rw [Table.fetch, online, if_neg Bool.false_ne_true, own, found]
    rfl

/-- The table that is online, holds the given numbers and counts them. -/
def Table.ofIds (ids : List Int64) : Table where
  ids := ids
  canned := none
  countRule := .rows
  offline := false

theorem Query.utf8ByteSize_mark_le (query : Query) (id : Int64) (page : UInt32) :
    (query.mark (Table.decimal id) page).utf8ByteSize ≤ tokenLimit := by
  apply (mark_fits_iff query ⟨Table.decimal id, page⟩).mpr
  have value := Table.utf8ByteSize_decimal_le id
  have number := Text.Numeral.utf8ByteSize_repr_le page
  rw [Text.Numeral.utf8ByteSize_repr] at number
  change (Table.decimal id).utf8ByteSize + (Nat.toDigits 10 page.toNat).length ≤ 6099
  omega

theorem EndTest.le_limit (endTest : EndTest) (size : UInt32) :
    size.toNat ≤ (endTest.limit size).toNat := by
  unfold EndTest.limit
  cases endTest with
  | fullPage => exact Nat.le_refl _
  | lookAhead =>
      by_cases greatest : size = 4294967295
      · simp only [if_pos greatest, Nat.le_refl]
      · simp only [if_neg greatest, Page.toNat_succ greatest, Nat.le_succ]

namespace Approach

/-- The request of an approach, for a query that asks for the first page. -/
def query (first : Query) : Approach → Query
  | .start => first
  | .past id page => first.following (first.mark (Table.decimal id) page)
  | .before id page => first.preceding (first.mark (Table.decimal id) page)

/-- The number of the page that the request counts from. -/
def page : Approach → UInt32
  | .start => pageOne
  | .past _ page => page
  | .before _ page => page

/-- The number that the request starts from. -/
def anchor : Approach → Option Int64
  | .start => none
  | .past id _ => some id
  | .before id _ => some id

def position (approach : Approach) : Option Position :=
  approach.anchor.map fun id => ⟨Table.decimal id, approach.page⟩

/-- The numbers that the request heads for, the nearest first. -/
def candidates (ascending : Bool) (ids : List Int64) : Approach → List Int64
  | .start => Table.listing ids ascending
  | .past id _ => Table.past ascending id (Table.listing ids ascending)
  | .before id _ => (Table.before ascending id (Table.listing ids ascending)).reverse

/-- The numbers on the page of the request, in the order of the query. -/
def shown (ascending : Bool) (ids : List Int64) (size : Nat) (approach : Approach) : List Int64 :=
  let front := (approach.candidates ascending ids).take size
  match approach with
  | .start => front
  | .past _ _ => front
  | .before _ _ => front.reverse

@[simp] theorem size_query (first : Query) (approach : Approach) :
    (approach.query first).size = first.size := by
  cases approach <;> rfl

@[simp] theorem demand_query (first : Query) (approach : Approach) :
    (approach.query first).demand = first.demand := by
  cases approach <;> rfl

theorem ascending_query (first : Query) (approach : Approach) :
    (approach.query first).ascending = first.ascending := by
  cases approach <;> rfl

theorem start_forward {first : Query} (bare : first.heading = .first) :
    (Approach.start.query first).heading ≠ .backward := by
  rw [query, bare]
  decide

theorem past_forward (first : Query) (id : Int64) (page : UInt32) :
    ((Approach.past id page).query first).heading ≠ .backward := by
  rw [query, Query.heading_following]
  decide

/-- The cursor of a request was made for a query of its shape, so it verifies. -/
theorem anchor_query {first : Query} (bare : first.heading = .first) {approach : Approach}
    (positive : pageOne ≤ approach.page) :
    (approach.query first).anchor.outcome = .ok approach.position := by
  have marked : ∀ (query : Query) (id : Int64) (page : UInt32), query.shape = first.shape →
      pageOne ≤ page → query.cursor? = some (first.mark (Table.decimal id) page) →
      query.anchor.outcome = .ok (some ⟨Table.decimal id, page⟩) := by
    intro query id page shape positive cursor
    have marks := Query.resolve_mark shape positive (first.utf8ByteSize_mark_le id page)
    exact (Query.anchor_eq_ok_iff cursor).mpr ⟨_, congrArg Traced.outcome marks, rfl⟩
  cases approach with
  | start => exact Query.anchor_of_first bare
  | past id page => exact marked _ id page rfl positive rfl
  | before id page => exact marked _ id page rfl positive rfl

theorem seek_query {first : Query} (bare : first.heading = .first) {ascending : Bool}
    (ascends : first.ascending = .ok ascending) {approach : Approach}
    (positive : pageOne ≤ approach.page) (policy : Policy) :
    (Seek.ofQuery policy (approach.query first)).outcome =
      .ok (Seek.fromAnchor policy (approach.query first) approach.position ascending) := by
  rw [← ascending_query first approach] at ascends
  exact Seek.ofQuery_eq_ok_iff.mpr
    ⟨_, ascending, anchor_query bare positive, ascends, rfl⟩

theorem anchorOf_query (first : Query) (approach : Approach) (policy : Policy)
    (ascending : Bool) :
    Table.anchorOf (Seek.fromAnchor policy (approach.query first) approach.position ascending) =
      .ok approach.anchor := by
  cases approach with
  | start => rfl
  | past id page => simp only [Table.anchorOf, Seek.fromAnchor, position, anchor, Option.map_some,
      Table.number_decimal]
  | before id page => simp only [Table.anchorOf, Seek.fromAnchor, position, anchor, Option.map_some,
      Table.number_decimal]

theorem direction_of_ascending {first : Query} {ascending : Bool}
    (ascends : first.ascending = .ok ascending) :
    ∃ direction, first.order.direction? first.cursorField = some direction ∧
      direction.isAscending = ascending := by
  unfold Query.ascending at ascends
  cases found : first.order.direction? first.cursorField with
  | none =>
      rw [found] at ascends
      cases ascends
  | some direction =>
      rw [found] at ascends
      exact ⟨direction, rfl, Except.ok.inj ascends⟩

/-- The front of the candidates is what a table selects for the request. -/
theorem select_query {first : Query} (bare : first.heading = .first) {ascending : Bool}
    (ascends : first.ascending = .ok ascending) {ids : List Int64} (distinct : ids.Nodup)
    (approach : Approach) (policy : Policy) :
    Table.select ids (Seek.fromAnchor policy (approach.query first) approach.position ascending)
        approach.anchor =
      (approach.candidates ascending ids).take (policy.endTest.limit first.size).toNat := by
  obtain ⟨direction, found, rfl⟩ := direction_of_ascending ascends
  have ahead : (some direction == some Direction.descending) = !direction.isAscending := by
    cases direction <;> rfl
  have back : (some direction.flip == some Direction.descending) = direction.isAscending := by
    cases direction <;> rfl
  rw [Table.select_eq_take distinct]
  cases approach with
  | start =>
      have descends : Table.descends (Seek.fromAnchor policy (query first .start)
          (position .start) direction.isAscending) = !direction.isAscending := by
        simp only [Table.descends, Seek.fromAnchor, query, bare, found, ahead]
      rw [descends, Bool.not_not]
      exact congrArg (List.take _) (Table.filter_lies_none _ _)
  | past id page =>
      have descends : Table.descends (Seek.fromAnchor policy (query first (.past id page))
          (position (.past id page)) direction.isAscending) = !direction.isAscending := by
        rw [← ahead, ← found]
        rfl
      rw [descends, Bool.not_not]
      exact congrArg (List.take _) (Table.filter_lies_ahead _ id _)
  | before id page =>
      have descends : Table.descends (Seek.fromAnchor policy (query first (.before id page))
          (position (.before id page)) direction.isAscending) = direction.isAscending := by
        refine Eq.trans ?_ back
        rw [← Option.map_some, ← found, ← SortOrder.direction?_reversed]
        rfl
      have side : (Seek.fromAnchor policy (query first (.before id page))
          (position (.before id page)) direction.isAscending).side =
            Side.ahead !direction.isAscending := Side.opposite_ahead _
      rw [descends, side, candidates, Table.before_eq_past, ← Table.past_reverse,
        Table.reverse_listing distinct]
      exact congrArg (List.take _) (Table.filter_lies_ahead _ id _)

/-- Whether the batch for the request is taken to reach the end of the candidates. -/
def ended (policy : Policy) (size : UInt32) (ascending : Bool) (ids : List Int64)
    (approach : Approach) : Bool :=
  policy.endTest.reached
    ((approach.candidates ascending ids).take (policy.endTest.limit size).toNat).length size.toNat

theorem arrange_query {ρ : Type} {first : Query} (bare : first.heading = .first) (ascending : Bool)
    (ids : List Int64) (approach : Approach) (policy : Policy) (row : Int64 → ρ) :
    Page.arrange (approach.query first)
        (((approach.candidates ascending ids).take (policy.endTest.limit first.size).toNat).map row) =
      (approach.shown ascending ids first.size.toNat).map row := by
  have fits := policy.endTest.le_limit first.size
  have kept : (((approach.candidates ascending ids).take
      (policy.endTest.limit first.size).toNat).map row).take first.size.toNat =
      ((approach.candidates ascending ids).take first.size.toNat).map row := by
    rw [← List.map_take, List.take_take, Nat.min_eq_left fits]
  unfold Page.arrange
  simp only [size_query, kept]
  cases approach with
  | start =>
      rw [query, bare]
      rfl
  | past id page =>
      rw [query, Query.heading_following]
      rfl
  | before id page =>
      rw [query, Query.heading_preceding]
      exact List.map_reverse.symm

/-- A page without a number stands for no candidates. -/
theorem candidates_eq_nil_of_shown {ascending : Bool} {ids : List Int64} {size : Nat}
    (positive : 0 < size) {approach : Approach} (empty : approach.shown ascending ids size = []) :
    approach.candidates ascending ids = [] := by
  have front : (approach.candidates ascending ids).take size = [] := by
    cases approach with
    | start => exact empty
    | past id page => exact empty
    | before id page => exact List.reverse_eq_nil_iff.mp empty
  rcases List.take_eq_nil_iff.mp front with zero | noneAhead
  · omega
  · exact noneAhead

theorem length_shown_le (ascending : Bool) (ids : List Int64) (size : Nat) (approach : Approach) :
    (approach.shown ascending ids size).length ≤ size := by
  cases approach with
  | start => exact List.length_take_le _ _
  | past id page => exact List.length_take_le _ _
  | before id page =>
      rw [shown, List.length_reverse]
      exact List.length_take_le _ _

theorem mem_candidates {ascending : Bool} {ids : List Int64} {approach : Approach} {id : Int64}
    (member : id ∈ approach.candidates ascending ids) : id ∈ ids := by
  cases approach with
  | start => exact Table.mem_listing.mp member
  | past anchor page => exact Table.mem_listing.mp (Table.mem_past.mp member).1
  | before anchor page =>
      rw [candidates, List.mem_reverse, Table.before_eq_past] at member
      exact Table.mem_listing.mp (Table.mem_past.mp member).1

theorem mem_candidates_of_mem_shown {ascending : Bool} {ids : List Int64} {size : Nat}
    {approach : Approach} {id : Int64} (member : id ∈ approach.shown ascending ids size) :
    id ∈ approach.candidates ascending ids := by
  cases approach with
  | start => exact List.mem_of_mem_take member
  | past anchor page => exact List.mem_of_mem_take member
  | before anchor page => exact List.mem_of_mem_take (List.mem_reverse.mp member)

theorem valued_shown {ρ ε : Type} [CursorValued ρ] {source : Source Id ρ ε} {row : Int64 → ρ}
    {ids : List Int64} (honours : Honours source row ids) {ascending : Bool} {size : Nat}
    {approach : Approach} {id : Int64} (member : id ∈ approach.shown ascending ids size) :
    cursorValue (row id) = some (Table.decimal id) :=
  honours.valued id (mem_candidates (mem_candidates_of_mem_shown member))

theorem length_candidates_le (ascending : Bool) (ids : List Int64) (approach : Approach) :
    (approach.candidates ascending ids).length ≤ ids.length := by
  rw [← Table.length_listing ids ascending]
  cases approach with
  | start => exact Nat.le_refl _
  | past id page => exact List.length_filter_le _ _
  | before id page =>
      rw [candidates, List.length_reverse]
      exact List.length_filter_le _ _

/-- A batch that is taken to reach the end holds all candidates, and so does the page. -/
theorem length_candidates_le_of_ended {policy : Policy} {size : UInt32} {ascending : Bool}
    {ids : List Int64} (few : ids.length < 4294967296) {approach : Approach}
    (ended : approach.ended policy size ascending ids = true) :
    (approach.candidates ascending ids).length ≤ size.toNat := by
  have bound := approach.length_candidates_le ascending ids
  unfold Approach.ended at ended
  rw [List.length_take] at ended
  cases mode : policy.endTest with
  | fullPage =>
      simp only [mode, EndTest.reached, EndTest.limit, decide_eq_true_eq] at ended
      omega
  | lookAhead =>
      by_cases greatest : size = 4294967295
      · rw [greatest]
        change _ ≤ 4294967295
        omega
      · simp only [mode, EndTest.reached, EndTest.limit, if_neg greatest, Page.toNat_succ greatest,
          decide_eq_true_eq] at ended
        omega

/-- With look-ahead the end is reached exactly if the page holds all candidates. -/
theorem ended_iff {policy : Policy} (ahead : policy.endTest = .lookAhead) {size : UInt32}
    {ascending : Bool} {ids : List Int64} (few : ids.length < 4294967296) {approach : Approach} :
    approach.ended policy size ascending ids = true ↔
      (approach.candidates ascending ids).length ≤ size.toNat := by
  refine ⟨length_candidates_le_of_ended few, fun all => ?_⟩
  unfold Approach.ended
  rw [List.length_take, ahead]
  simp only [EndTest.reached, decide_eq_true_eq]
  omega

section Answer

variable {ρ ε : Type} {row : Int64 → ρ} {ids : List Int64}

/-- The rows that the source hands out for a request. -/
def batch (policy : Policy) (size : UInt32) (ascending : Bool) (row : Int64 → ρ) (ids : List Int64)
    (approach : Approach) : List ρ :=
  ((approach.candidates ascending ids).take (policy.endTest.limit size).toNat).map row

theorem batch_eq_nil_iff {policy : Policy} {size : UInt32} (sized : 0 < size) {ascending : Bool}
    {approach : Approach} :
    approach.batch policy size ascending row ids = [] ↔
      approach.shown ascending ids size.toNat = [] := by
  have positive : 0 < size.toNat := UInt32.lt_iff_toNat_lt.mp sized
  have fits := policy.endTest.le_limit size
  rw [batch, List.map_eq_nil_iff, List.take_eq_nil_iff]
  constructor
  · rintro (zero | noneAhead)
    · omega
    · exact List.eq_nil_iff_forall_not_mem.mpr fun id member =>
        List.eq_nil_iff_forall_not_mem.mp noneAhead id (mem_candidates_of_mem_shown member)
  · intro empty
    exact Or.inr (candidates_eq_nil_of_shown positive empty)

/-- The page of a request with a total: bare if it shows nothing, and otherwise the rows shown, with
the cursors that belong beside them. There is none if a number does not fit. -/
def Composed (policy : Policy) (first : Query) (ascending : Bool) (row : Int64 → ρ)
    (ids : List Int64) (approach : Approach) (total : Option UInt64) (page : Page ρ) : Prop :=
  (approach.shown ascending ids first.size.toNat = [] ∧ page = Page.bare first uncounted) ∨
    ∃ head last carried,
      (approach.shown ascending ids first.size.toNat).head? = some head ∧
      (approach.shown ascending ids first.size.toNat).getLast? = some last ∧
      ¬Page.Overflows (approach.query first) (approach.ended policy first.size ascending ids)
        approach.page ∧
      Page.carryTotal total = .ok carried ∧
      page = Page.placed (approach.query first)
        ((approach.shown ascending ids first.size.toNat).map row) carried
        (Page.neighbours (approach.query first) (approach.ended policy first.size ascending ids)
          (Table.decimal head) (Table.decimal last) approach.page)

variable [CursorValued ρ] {source : Source Id ρ ε}

theorem composed_iff (honours : Honours source row ids) {first : Query}
    (bare : first.heading = .first) (sized : 0 < first.size) {ascending : Bool}
    {approach : Approach} (positive : pageOne ≤ approach.page) {policy : Policy}
    {total : Option UInt64} {page : Page ρ} :
    (Page.composeAt policy total (approach.batch policy first.size ascending row ids)
        (approach.query first) (.succeed approach.page)).outcome = .ok page ↔
      approach.Composed policy first ascending row ids total page := by
  have arranged : Page.arrange (approach.query first)
      (approach.batch policy first.size ascending row ids) =
        (approach.shown ascending ids first.size.toNat).map row :=
    arrange_query bare ascending ids approach policy row
  have reached : policy.endTest.reached (approach.batch policy first.size ascending row ids).length
      (approach.query first).size.toNat = approach.ended policy first.size ascending ids := by
    rw [batch, List.length_map, size_query]
    rfl
  unfold Composed
  by_cases empty : approach.shown ascending ids first.size.toNat = []
  · rw [(batch_eq_nil_iff sized).mpr empty, Page.composeAt_nil, empty]
    have same : Page.bare (ρ := ρ) (approach.query first) uncounted =
        Page.bare first uncounted := by
      cases approach <;> rfl
    simp [same, eq_comm]
  · obtain ⟨head, last, headed, lasts⟩ := Table.exists_ends empty
    have headValue : (Page.arrange (approach.query first)
        (approach.batch policy first.size ascending row ids)).head?.bind cursorValue =
          some (Table.decimal head) := by
      rw [arranged, List.head?_map, headed]
      exact valued_shown honours (List.mem_of_head? headed)
    have lastValue : (Page.arrange (approach.query first)
        (approach.batch policy first.size ascending row ids)).getLast?.bind cursorValue =
          some (Table.decimal last) := by
      rw [arranged, List.getLast?_map, lasts]
      exact valued_shown honours (List.mem_of_getLast? lasts)
    rw [Page.composeAt_of_ne_nil (mt (batch_eq_nil_iff sized).mp empty),
      Page.composeRows_eq_ok_iff positive headValue lastValue, reached, arranged]
    constructor
    · rintro ⟨fits, carried, counted, rfl⟩
      exact Or.inr ⟨head, last, carried, headed, lasts, fits, counted, rfl⟩
    · rintro (⟨nothing, -⟩ | ⟨head', last', carried, headed', lasts', fits, counted, rfl⟩)
      · exact absurd nothing empty
      · obtain rfl := Option.some.inj (headed.symm.trans headed')
        obtain rfl := Option.some.inj (lasts.symm.trans lasts')
        exact ⟨fits, carried, counted, rfl⟩

/-- The page of a request over a source that honours seeks, and when there is one. -/
theorem answer_eq_ok_iff (honours : Honours source row ids) (distinct : ids.Nodup) {first : Query}
    {ascending : Bool} (opens : first.Opens ascending) {approach : Approach}
    (positive : pageOne ≤ approach.page) {policy : Policy} {page : Page ρ} :
    Paging.answer policy source (approach.query first) = .ok page ↔
      ∃ total, Paging.countFor source (approach.query first) = .ok total ∧
        approach.Composed policy first ascending row ids total page := by
  have demand : (approach.query first).demand.wantsRows = true := by
    rw [demand_query]
    exact opens.rows
  have fetched := honours.fetched (approach.query first) _ _
    (anchorOf_query first approach policy ascending)
  rw [select_query opens.bare opens.ascends distinct] at fetched
  have current : (Seek.fromAnchor policy (approach.query first) approach.position
      ascending).currentPage = approach.page := by
    cases approach <;> rfl
  rw [Paging.answer_eq_ok_iff demand (seek_query opens.bare opens.ascends positive policy), current]
  constructor
  · rintro ⟨total, rows, counted, handed, composed⟩
    obtain rfl := Except.ok.inj (handed.symm.trans fetched)
    exact ⟨total, counted, (composed_iff honours opens.bare opens.sized positive).mp composed⟩
  · rintro ⟨total, counted, composed⟩
    exact ⟨total, _, counted, fetched,
      (composed_iff honours opens.bare opens.sized positive).mpr composed⟩

end Answer

end Approach

end KeysetPaging
