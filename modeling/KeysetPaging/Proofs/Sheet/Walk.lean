import KeysetPaging.Proofs.Paging.Entry
import KeysetPaging.Proofs.Paging.Walk
import KeysetPaging.Proofs.Sheet.Listing
import KeysetPaging.Proofs.Table.Strides
import Mathlib.Data.Int.Order.Basic

/-!
# Walks over tables of several fields

A cursor marks the value of the cursor field alone, so a walk forward strides through the listing by
that field, whatever the order of the query. Every such walk is answered and comes to an end. It
returns the rows of the table, each once and in the order of the query, exactly if the cursor field
cuts the listing at the end of each page; it does so where the cursor field is the most significant
one of the order.
-/

namespace KeysetPaging

/-- The records on the pages of a walk, the earliest page first. -/
def Page.recordsOf {ρ : Type} (pages : List (Page ρ)) : List ρ :=
  pages.reverse.flatMap Page.records

theorem Page.recordsOf_cons {ρ : Type} (page : Page ρ) (pages : List (Page ρ)) :
    recordsOf (page :: pages) = recordsOf pages ++ page.records := by
  simp [recordsOf]

/-- Beside a page that is not backward, the cursor for the next page marks the last record, unless the
end is reached. -/
theorem Page.nextCursor_of_forward {query : Query} (forward : query.heading ≠ .backward)
    (ended : Bool) (first last : String) (page : UInt32) :
    (neighbours query ended first last page).nextCursor =
      if ended then none else some (query.mark last (page + 1)) := by
  unfold neighbours
  cases heading : query.heading with
  | first => rfl
  | forward => rfl
  | backward => exact absurd heading forward

/-- With look-ahead a batch is taken to reach the end exactly if all that lies ahead fits the page. -/
theorem EndTest.reached_lookAhead {size : UInt32} {length : Nat} (few : length < 4294967296) :
    EndTest.lookAhead.reached (min (EndTest.lookAhead.limit size).toNat length) size.toNat =
      decide (length ≤ size.toNat) := by
  unfold EndTest.reached EndTest.limit
  by_cases greatest : size = 4294967295
  · rw [greatest]
    change decide (min 4294967295 length ≤ 4294967295) = decide (length ≤ 4294967295)
    rw [decide_eq_decide]
    omega
  · simp only [if_neg greatest, Page.toNat_succ greatest]
    rw [decide_eq_decide]
    omega

namespace Sheet

variable {ρ κ ε : Type} [LinearOrder κ]

/-- What holds of all walks forward from a query: each request is answered, the walks come to an end,
and they return the listing exactly if the cursor field cuts it at the end of each page. -/
structure ForwardWalks (sheet : Sheet ρ κ) (answer : Query → Except (Failure ε) (Page ρ))
    (first : Query) (side : Side) : Prop where
  begins : ∃ page, answer first = .ok page
  continues : ∀ {moves : List Neighbour} {pages : List (Page ρ)} {page : Page ρ}
    {query next : Query},
    Walk (fun _ => answer) first moves (page :: pages) query → (∀ move ∈ moves, move = .next) →
      page.following query = some next → ∃ later, answer next = .ok later
  ends : ∃ moves pages page query, Walk (fun _ => answer) first moves (page :: pages) query ∧
    (∀ move ∈ moves, move = .next) ∧ page.nextCursor = none
  complete_iff : ∀ {moves : List Neighbour} {pages : List (Page ρ)} {page : Page ρ}
    {query : Query},
    Walk (fun _ => answer) first moves (page :: pages) query → (∀ move ∈ moves, move = .next) →
      page.nextCursor = none →
      (Page.recordsOf (page :: pages) = sheet.listing first.order ↔
        ∀ place, (place + 1) * first.size.toNat < sheet.rows.length →
          Cuts (sheet.past first.cursorField side) first.size.toNat (sheet.listing first.order) place)

/-- The cursor field cuts the listing everywhere if it is the most significant one of the order. -/
theorem ForwardWalks.complete_of_leading {sheet : Sheet ρ κ}
    {answer : Query → Except (Failure ε) (Page ρ)} {first : Query} {direction : Direction}
    (walks : sheet.ForwardWalks answer first (Side.ahead direction.isAscending))
    (leads : first.order.terms.head? = some ⟨first.cursorField, direction⟩)
    (distinct : (sheet.rows.map (sheet.value first.cursorField)).Nodup)
    {moves : List Neighbour} {pages : List (Page ρ)} {page : Page ρ} {query : Query}
    (walk : Walk (fun _ => answer) first moves (page :: pages) query)
    (forward : ∀ move ∈ moves, move = .next) (noNext : page.nextCursor = none) :
    Page.recordsOf (page :: pages) = sheet.listing first.order :=
  (walks.complete_iff walk forward noNext).mpr fun place _ =>
    cuts_of_sorted (sheet.past_irrefl _ _) (sheet.past_trans _ _)
      (listing_sorted_past leads distinct) place

variable [CursorValued ρ]

/-- A source whose rows are those of a sheet and which honours the seeks it is asked for: it reads the
value of an anchor and hands out the rows that the sheet selects. -/
structure Honours (sheet : Sheet ρ κ) (source : Source Id ρ ε) (field : String)
    (read : String → Option κ) : Prop where
  valued : ∀ row ∈ sheet.rows, ∃ text, cursorValue row = some text ∧
    read text = some (sheet.value field row)
  fetched : ∀ query seek anchor, seek.value.map read = anchor.map some →
    source.fetch query seek = .ok (sheet.select seek anchor)

/-- A sheet behind a source that honours seeks, and a query for its first page: the rows differ in the
cursor field, are few enough to number their pages, and have values that fit a token. -/
structure Served (sheet : Sheet ρ κ) (source : Source Id ρ ε) (read : String → Option κ)
    (first : Query) (ascending : Bool) : Prop where
  honours : sheet.Honours source first.cursorField read
  opens : first.Opens ascending
  named : first.cursorField ∈ first.order.fields
  countless : first.demand.wantsTotal = false
  distinct : (sheet.rows.map (sheet.value first.cursorField)).Nodup
  few : sheet.rows.length < 4294967295
  short : ∀ row ∈ sheet.rows, ∀ text page, cursorValue row = some text →
    (first.mark text page).utf8ByteSize ≤ tokenLimit

/-- A request of a walk forward, the number of its page, and the rows that lie ahead of it: it comes
from the start, or from the cursor that marks a row. -/
inductive Leg (sheet : Sheet ρ κ) (first : Query) (side : Side) :
    Query → UInt32 → List ρ → Prop where
  | start : Leg sheet first side first pageOne (sheet.listing first.order)
  | past {anchor : ρ} {text : String} {page : UInt32} (stored : anchor ∈ sheet.rows)
      (valued : cursorValue anchor = some text) (positive : pageOne ≤ page) :
      Leg sheet first side (first.following (first.mark text page)) page
        ((sheet.listing first.order).filter (sheet.past first.cursorField side anchor))

namespace Leg

variable {sheet : Sheet ρ κ} {source : Source Id ρ ε} {read : String → Option κ} {first : Query}
  {ascending : Bool} {query : Query} {number : UInt32} {ahead : List ρ} {policy : Policy}

theorem positive {side : Side} (leg : sheet.Leg first side query number ahead) :
    pageOne ≤ number := by
  cases leg with
  | start => exact UInt32.le_refl pageOne
  | past stored valued positive => exact positive

theorem forward {side : Side} (bare : first.heading = .first)
    (leg : sheet.Leg first side query number ahead) : query.heading ≠ .backward := by
  cases leg with
  | start =>
      rw [bare]
      decide
  | past stored valued positive =>
      rw [Query.heading_following]
      decide

theorem following_eq {side : Side} (leg : sheet.Leg first side query number ahead)
    (token : String) : query.following token = first.following token := by
  cases leg <;> rfl

theorem stored_of_mem {side : Side} (leg : sheet.Leg first side query number ahead) {row : ρ}
    (member : row ∈ ahead) : row ∈ sheet.rows := by
  cases leg with
  | start => exact mem_listing.mp member
  | past stored valued positive => exact mem_listing.mp (List.mem_filter.mp member).1

theorem length_ahead_le {side : Side} (leg : sheet.Leg first side query number ahead) :
    ahead.length ≤ sheet.rows.length := by
  rw [← sheet.length_listing first.order]
  cases leg with
  | start => exact Nat.le_refl _
  | past stored valued positive => exact List.length_filter_le _ _

theorem mark_eq {side : Side} (leg : sheet.Leg first side query number ahead) (value : String)
    (page : UInt32) : query.mark value page = first.mark value page := by
  cases leg <;> rfl

/-- A page shows the front of the batch. -/
theorem arrange_batch {side : Side} (bare : first.heading = .first)
    (leg : sheet.Leg first side query number ahead) (policy : Policy) :
    Page.arrange query (ahead.take (policy.endTest.limit first.size).toNat) =
      ahead.take first.size.toNat := by
  have kept : (ahead.take (policy.endTest.limit first.size).toNat).take first.size.toNat =
      ahead.take first.size.toNat := by
    rw [List.take_take, Nat.min_eq_left (policy.endTest.le_limit first.size)]
  unfold Page.arrange
  cases leg with
  | start => simp only [kept, bare]
  | past stored valued positive => exact kept

/-- The source hands out the front of the rows ahead. -/
theorem exists_seek (served : sheet.Served source read first ascending)
    (leg : sheet.Leg first (Side.ahead ascending) query number ahead) (policy : Policy) :
    ∃ seek, (Seek.ofQuery policy query).outcome = .ok seek ∧ seek.currentPage = number ∧
      source.fetch query seek = .ok (ahead.take (policy.endTest.limit first.size).toNat) := by
  have bare := served.opens.bare
  cases leg with
  | start =>
      have positive : pageOne ≤ Approach.start.page := UInt32.le_refl pageOne
      have order : (Seek.fromAnchor policy first none ascending).fetchOrder = first.order := by
        simp only [Seek.fromAnchor, bare]
      have all : ∀ side, (sheet.listing first.order).filter
          (sheet.lies first.cursorField side none) = sheet.listing first.order :=
        fun side => List.filter_eq_self.mpr fun _ _ => rfl
      refine ⟨Seek.fromAnchor policy first none ascending,
        Approach.seek_query bare served.opens.ascends positive policy, rfl, ?_⟩
      rw [served.honours.fetched first _ none rfl, select_eq_take, order]
      exact congrArg (fun rows => Except.ok (List.take _ rows)) (all _)
  | @past anchor text _ stored valued positive =>
      have accepted := congrArg Traced.outcome (Query.resolve_mark
        (Query.shape_following first (first.mark text number)) positive
        (served.short anchor stored text number valued))
      have ascends : (first.following (first.mark text number)).ascending = .ok ascending :=
        served.opens.ascends
      obtain ⟨own, spelled, reads⟩ := served.honours.valued anchor stored
      obtain rfl := Option.some.inj (valued.symm.trans spelled)
      have anchored : (Seek.fromAnchor policy (first.following (first.mark text number))
          (some ⟨text, number⟩) ascending).value.map read =
            (some (sheet.value first.cursorField anchor)).map some := congrArg some reads
      refine ⟨_, Query.seek_of_resolve rfl ascends accepted policy, rfl, ?_⟩
      rw [served.honours.fetched _ _ _ anchored, select_eq_take]
      rfl

theorem exists_cursorValue (served : sheet.Served source read first ascending) {side : Side}
    (leg : sheet.Leg first side query number ahead) {row : ρ}
    (member : row ∈ ahead.take first.size.toNat) : ∃ text, cursorValue row = some text := by
  obtain ⟨text, spelled, -⟩ :=
    served.honours.valued row (leg.stored_of_mem (List.mem_of_mem_take member))
  exact ⟨text, spelled⟩

theorem size_eq {side : Side} (leg : sheet.Leg first side query number ahead) :
    query.size = first.size := by
  cases leg <;> rfl

theorem demand_eq {side : Side} (leg : sheet.Leg first side query number ahead) :
    query.demand = first.demand := by
  cases leg <;> rfl

/-- The page of a request for which its source hands out a batch without counting. -/
theorem answer_of_composed (served : sheet.Served source read first ascending)
    (leg : sheet.Leg first (Side.ahead ascending) query number ahead) {page : Page ρ}
    (composed : (Page.composeAt policy none (ahead.take (policy.endTest.limit first.size).toNat)
      query (.succeed number)).outcome = .ok page) :
    Paging.answer policy source query = .ok page := by
  obtain ⟨seek, sought, current, fetched⟩ := leg.exists_seek served policy
  have rows : query.demand.wantsRows = true := by
    rw [leg.demand_eq]
    exact served.opens.rows
  have counted : Paging.countFor source query = .ok none := by
    rw [Paging.countFor, leg.demand_eq, served.countless]
    rfl
  rw [← current] at composed
  exact (Paging.answer_eq_ok_iff rows sought).mpr ⟨none, _, counted, fetched, composed⟩

/-- The rows that a page shows begin and end with rows whose values can be marked. -/
theorem exists_ends (served : sheet.Served source read first ascending) {side : Side}
    (leg : sheet.Leg first side query number ahead) (nonempty : ahead ≠ []) :
    ∃ last headText lastText, (ahead.take first.size.toNat).getLast? = some last ∧
      (ahead.take first.size.toNat).head?.bind cursorValue = some headText ∧
      cursorValue last = some lastText := by
  have positive : 0 < first.size.toNat := UInt32.lt_iff_toNat_lt.mp served.opens.sized
  have filled : ahead.take first.size.toNat ≠ [] := fun empty =>
    (List.take_eq_nil_iff.mp empty).elim (Nat.ne_of_gt positive) nonempty
  obtain ⟨head, headed⟩ := Option.ne_none_iff_exists'.mp (mt List.head?_eq_none_iff.mp filled)
  obtain ⟨last, lasts⟩ := Option.ne_none_iff_exists'.mp (mt List.getLast?_eq_none_iff.mp filled)
  obtain ⟨headText, headSpelled⟩ := leg.exists_cursorValue served (List.mem_of_head? headed)
  obtain ⟨lastText, lastSpelled⟩ := leg.exists_cursorValue served (List.mem_of_getLast? lasts)
  exact ⟨last, headText, lastText, lasts, by rw [headed]; exact headSpelled, lastSpelled⟩

/-- The page of rows whose ends have values for the cursor field. -/
theorem answer_of_ne_nil (served : sheet.Served source read first ascending)
    (looks : policy.endTest = .lookAhead)
    (leg : sheet.Leg first (Side.ahead ascending) query number ahead) (nonempty : ahead ≠ [])
    (fits : first.size.toNat < ahead.length → number ≠ 4294967295) :
    ∃ last headText lastText, (ahead.take first.size.toNat).getLast? = some last ∧
      cursorValue last = some lastText ∧
      Paging.answer policy source query = .ok (Page.placed query (ahead.take first.size.toNat)
        uncounted (Page.neighbours query (decide (ahead.length ≤ first.size.toNat)) headText lastText
          number)) := by
  have positive : 0 < first.size.toNat := UInt32.lt_iff_toNat_lt.mp served.opens.sized
  have limit := policy.endTest.le_limit first.size
  have handed : ahead.take (policy.endTest.limit first.size).toNat ≠ [] := fun empty =>
    (List.take_eq_nil_iff.mp empty).elim (Nat.ne_of_gt (Nat.lt_of_lt_of_le positive limit)) nonempty
  obtain ⟨last, headText, lastText, lasts, headSpelled, lastSpelled⟩ :=
    leg.exists_ends served nonempty
  have arranged := leg.arrange_batch served.opens.bare policy
  have headValue : (Page.arrange query
      (ahead.take (policy.endTest.limit first.size).toNat)).head?.bind cursorValue =
        some headText := by
    rw [arranged]
    exact headSpelled
  have lastValue : (Page.arrange query
      (ahead.take (policy.endTest.limit first.size).toNat)).getLast?.bind cursorValue =
        some lastText := by
    rw [arranged, lasts]
    exact lastSpelled
  have ended : policy.endTest.reached (ahead.take (policy.endTest.limit first.size).toNat).length
      query.size.toNat = decide (ahead.length ≤ first.size.toNat) := by
    rw [List.length_take, leg.size_eq, looks]
    exact EndTest.reached_lookAhead (Nat.lt_of_le_of_lt leg.length_ahead_le
      (Nat.lt_succ_of_lt served.few))
  refine ⟨last, headText, lastText, lasts, lastSpelled, leg.answer_of_composed served ?_⟩
  rw [Page.composeAt_of_ne_nil handed,
    Page.composeRows_eq_ok_iff leg.positive headValue lastValue, ended, arranged]
  refine ⟨?_, uncounted, rfl, rfl⟩
  rintro ⟨-, unended, greatest⟩
  exact fits (Nat.not_le.mp (of_decide_eq_false unended)) greatest

/-- What the page of a request holds: the front of the rows ahead, and a cursor for the next page that
marks the last of them if there are more. -/
structure Shows (first : Query) (number : UInt32) (ahead : List ρ) (page : Page ρ) : Prop where
  records : page.records = ahead.take first.size.toNat
  ends : ahead.length ≤ first.size.toNat → page.nextCursor = none
  goes : first.size.toNat < ahead.length → ∃ last text,
    (ahead.take first.size.toNat).getLast? = some last ∧ cursorValue last = some text ∧
      page.nextCursor = some (first.mark text (number + 1))

/-- Every request is answered whose next page has a number that fits. -/
theorem exists_shows (served : sheet.Served source read first ascending)
    (looks : policy.endTest = .lookAhead)
    (leg : sheet.Leg first (Side.ahead ascending) query number ahead)
    (fits : first.size.toNat < ahead.length → number ≠ 4294967295) :
    ∃ page, Paging.answer policy source query = .ok page ∧ Shows first number ahead page := by
  by_cases empty : ahead = []
  · have composed : (Page.composeAt policy none
        (ahead.take (policy.endTest.limit first.size).toNat) query (.succeed number)).outcome =
          .ok (Page.bare query uncounted) := by
      rw [empty, List.take_nil]
      rfl
    refine ⟨_, leg.answer_of_composed served composed, ?_, fun _ => rfl, fun more => ?_⟩
    · rw [empty, List.take_nil]
      rfl
    · rw [empty] at more
      exact absurd more (Nat.not_lt_zero _)
  · obtain ⟨last, headText, lastText, lasts, spelled, answered⟩ :=
      leg.answer_of_ne_nil served looks empty fits
    have next := Page.nextCursor_of_forward (leg.forward served.opens.bare)
      (decide (ahead.length ≤ first.size.toNat)) headText lastText number
    refine ⟨_, answered, rfl, fun all => ?_, fun more => ⟨last, lastText, lasts, spelled, ?_⟩⟩
    · exact next.trans (if_pos (decide_eq_true all))
    · refine next.trans ((if_neg ?_).trans (congrArg some (leg.mark_eq lastText _)))
      exact Bool.eq_false_iff.mp (decide_eq_false (Nat.not_le.mpr more))

end Leg

/-- Where a walk forward stands after so many moves: its request, the number of its page, the rows that
the earlier pages returned, and the rows ahead. -/
structure Stage (sheet : Sheet ρ κ) (first : Query) (side : Side) (count : Nat) (query : Query)
    (number : UInt32) (returned ahead : List ρ) : Prop where
  leg : sheet.Leg first side query number ahead
  number_eq : number.toNat = count + 1
  strides : Strides (sheet.past first.cursorField side) first.size.toNat (sheet.listing first.order)
    count returned ahead

namespace Stage

variable {sheet : Sheet ρ κ} {source : Source Id ρ ε} {read : String → Option κ} {first : Query}
  {ascending : Bool} {count : Nat} {query : Query} {number : UInt32} {returned ahead : List ρ}
  {policy : Policy} {page : Page ρ}

theorem start (sheet : Sheet ρ κ) (first : Query) (side : Side) :
    sheet.Stage first side 0 first pageOne [] (sheet.listing first.order) :=
  ⟨.start, rfl, .start⟩

theorem number_ne_greatest (served : sheet.Served source read first ascending)
    (stage : sheet.Stage first (Side.ahead ascending) count query number returned ahead)
    (nonempty : 0 < ahead.length) : number ≠ 4294967295 := by
  intro greatest
  have number_eq := stage.number_eq
  have bound := stage.strides.count_add_length_le (sheet.past_trans _ _) (sheet.past_irrefl _ _)
  have few := served.few
  rw [sheet.length_listing] at bound
  rw [greatest] at number_eq
  change 4294967295 = count + 1 at number_eq
  omega

theorem exists_shows (served : sheet.Served source read first ascending)
    (looks : policy.endTest = .lookAhead)
    (stage : sheet.Stage first (Side.ahead ascending) count query number returned ahead) :
    ∃ page, Paging.answer policy source query = .ok page ∧ Leg.Shows first number ahead page :=
  stage.leg.exists_shows served looks fun more =>
    stage.number_ne_greatest served (Nat.zero_lt_of_lt more)

/-- The cursor for the next page leads past the last row shown, so less lies ahead. -/
theorem exists_next (served : sheet.Served source read first ascending)
    (stage : sheet.Stage first (Side.ahead ascending) count query number returned ahead)
    (shows : Leg.Shows first number ahead page) (more : first.size.toNat < ahead.length) :
    ∃ next number' ahead', page.beside query .next = some next ∧
      sheet.Stage first (Side.ahead ascending) (count + 1) next number'
        (returned ++ ahead.take first.size.toNat) ahead' ∧ ahead'.length < ahead.length := by
  obtain ⟨last, text, lasts, spelled, found⟩ := shows.goes more
  have member := Strides.mem_ahead_of_lasts lasts
  have below := stage.number_ne_greatest served (Nat.zero_lt_of_lt more)
  have strides := stage.strides.stride more lasts
  refine ⟨first.following (first.mark text (number + 1)), number + 1, _, ?_, ⟨?_, ?_, strides⟩, ?_⟩
  · change page.nextCursor.map query.following = _
    rw [found, Option.map_some, stage.leg.following_eq]
  · exact .past (stage.leg.stored_of_mem member) spelled (Page.pageOne_le_succ below)
  · rw [Page.toNat_succ below, stage.number_eq]
  · rw [← stage.strides.filter_ahead (sheet.past_trans _ _) member]
    exact Strides.length_filter_lt (sheet.past_irrefl _ _) member

/-- A page leads on only if more rows lie ahead than it shows. -/
theorem more_of_leads (shows : Leg.Shows first number ahead page) {next : Query}
    (leads : page.beside query .next = some next) : first.size.toNat < ahead.length := by
  refine Nat.not_le.mp fun all => ?_
  change page.nextCursor.map query.following = some next at leads
  rw [shows.ends all] at leads
  cases leads

end Stage

section Walks

variable {sheet : Sheet ρ κ} {source : Source Id ρ ε} {read : String → Option κ} {first : Query}
  {ascending : Bool} {policy : Policy}

/-- Every walk forward stands somewhere, and its page shows the front of what lies ahead. -/
theorem exists_stage (served : sheet.Served source read first ascending)
    (looks : policy.endTest = .lookAhead) {moves : List Neighbour} {pages : List (Page ρ)}
    {page : Page ρ} {query : Query}
    (walk : Walk (fun _ => Paging.answer policy source) first moves (page :: pages) query)
    (forward : ∀ move ∈ moves, move = .next) :
    ∃ number returned ahead,
      sheet.Stage first (Side.ahead ascending) moves.length query number returned ahead ∧
      Leg.Shows first number ahead page ∧
      Page.recordsOf (page :: pages) = returned ++ ahead.take first.size.toNat := by
  induction walk using Walk.stepwise with
  | @first page answered =>
      have stage := Stage.start sheet first (Side.ahead ascending)
      obtain ⟨own, served, shows⟩ := stage.exists_shows served looks
      rw [answered] at served
      cases served
      refine ⟨_, _, _, stage, shows, ?_⟩
      rw [Page.recordsOf_cons, shows.records]
      rfl
  | @turn moves pages page latest query next move walk leads answered ih =>
      rw [List.forall_mem_cons] at forward
      obtain ⟨rfl, forward⟩ := forward
      obtain ⟨number, returned, ahead, stage, shows, records⟩ := ih forward
      -- The page has one cursor for the next page, so the walk went where the stage leads.
      obtain ⟨next', number', ahead', leads', stage', -⟩ :=
        stage.exists_next served shows (Stage.more_of_leads shows leads)
      obtain rfl := Option.some.inj (leads'.symm.trans leads)
      obtain ⟨own, served, shows'⟩ := stage'.exists_shows served looks
      rw [answered] at served
      cases served
      refine ⟨number', _, ahead', stage', shows', ?_⟩
      rw [Page.recordsOf_cons, records, shows'.records]

/-- A walk forward can go on until no row lies ahead that its page does not show. -/
theorem exists_end (served : sheet.Served source read first ascending)
    (looks : policy.endTest = .lookAhead) {moves : List Neighbour} {pages : List (Page ρ)}
    {page : Page ρ} {query : Query}
    (walk : Walk (fun _ => Paging.answer policy source) first moves (page :: pages) query)
    (forward : ∀ move ∈ moves, move = .next) {number : UInt32} {returned ahead : List ρ}
    (stage : sheet.Stage first (Side.ahead ascending) moves.length query number returned ahead)
    (shows : Leg.Shows first number ahead page) :
    ∃ moves' pages' page' query',
      Walk (fun _ => Paging.answer policy source) first moves' (page' :: pages') query' ∧
      (∀ move ∈ moves', move = .next) ∧ page'.nextCursor = none := by
  by_cases more : first.size.toNat < ahead.length
  · obtain ⟨next, number', ahead', leads, stage', fewer⟩ := stage.exists_next served shows more
    obtain ⟨later, answered, shows'⟩ := stage'.exists_shows served looks
    exact exists_end served looks (walk.turn leads answered)
      (List.forall_mem_cons.mpr ⟨rfl, forward⟩) stage' shows'
  · exact ⟨moves, pages, page, query, walk, forward, shows.ends (Nat.not_lt.mp more)⟩
termination_by ahead.length

/-- Walks forward are complete exactly where the cursor field cuts the listing. -/
theorem exists_forwardWalks {settings : Settings} (reachable : first.Reachable settings)
    (bare : first.heading = .first) (rows : first.demand = .rows)
    (looks : policy.endTest = .lookAhead)
    (honours : sheet.Honours source first.cursorField read)
    (distinct : (sheet.rows.map (sheet.value first.cursorField)).Nodup)
    (few : sheet.rows.length < 4294967295)
    (short : ∀ row ∈ sheet.rows, ∀ text page, cursorValue row = some text →
      (first.mark text page).utf8ByteSize ≤ tokenLimit) :
    ∃ ascending, first.ascending = .ok ascending ∧
      sheet.ForwardWalks (Paging.answer policy source) first (Side.ahead ascending) := by
  have wants : first.demand.wantsRows = true := by rw [rows]; rfl
  have countless : first.demand.wantsTotal = false := by rw [rows]; rfl
  have named := reachable.wellFormed.cursor_mem
  obtain ⟨ascending, opens⟩ := reachable.exists_opens bare wants
  have served : sheet.Served source read first ascending :=
    ⟨honours, opens, named, countless, distinct, few, short⟩
  have stage := Stage.start sheet first (Side.ahead ascending)
  obtain ⟨page, answered, shows⟩ := stage.exists_shows served looks
  refine ⟨ascending, opens.ascends, ⟨page, answered⟩, ?_, ?_, ?_⟩
  · intro moves pages page query next walk forward leads
    obtain ⟨number, returned, ahead, stage, shows, -⟩ := exists_stage served looks walk forward
    obtain ⟨next', number', ahead', leads', stage', -⟩ :=
      stage.exists_next served shows (Stage.more_of_leads shows leads)
    obtain rfl := Option.some.inj (leads'.symm.trans leads)
    obtain ⟨later, answered, -⟩ := stage'.exists_shows served looks
    exact ⟨later, answered⟩
  · exact exists_end served looks (.first answered) (List.forall_mem_nil _) stage shows
  · intro moves pages page query walk forward noNext
    obtain ⟨number, returned, ahead, stage, shows, records⟩ :=
      exists_stage served looks walk forward
    have all : ahead.length ≤ first.size.toNat := by
      refine Nat.not_lt.mp fun more => ?_
      obtain ⟨last, text, -, -, found⟩ := shows.goes more
      rw [noNext] at found
      cases found
    rw [records, List.take_of_length_le all, ← sheet.length_listing first.order]
    exact stage.strides.complete_iff (sheet.past_trans _ _) precedes_asymm
      (listing_sorted named distinct) all

end Walks

/-- The sheet as a record source that cannot count. -/
def source (sheet : Sheet ρ κ) (read : String → Option κ) : Source Id ρ String where
  fetch _ seek :=
    match seek.value with
    | none => .ok (sheet.select seek none)
    | some text =>
        match read text with
        | some value => .ok (sheet.select seek (some value))
        | none => .error "bad anchor value"
  count _ := .ok none

theorem honours_source {sheet : Sheet ρ κ} {read : String → Option κ} {field : String}
    (valued : ∀ row ∈ sheet.rows, ∃ text, cursorValue row = some text ∧
      read text = some (sheet.value field row)) : sheet.Honours (sheet.source read) field read where
  valued := valued
  fetched := by
    intro query seek anchor anchored
    change (match seek.value with
      | none => _
      | some text => _) = _
    cases value : seek.value with
    | none =>
        rw [value] at anchored
        cases anchor with
        | none => rfl
        | some other => cases anchored
    | some text =>
        rw [value] at anchored
        cases anchor with
        | none => cases anchored
        | some other =>
            have reads : read text = some other := Option.some.inj anchored
            simp only [reads]

end Sheet

/-- A record that is known by its number and by when it was made. -/
structure Stamped where
  id : Int64
  created : Int64
  deriving DecidableEq

instance : CursorValued Stamped where
  cursorValue row := some (Table.decimal row.id)

namespace Stamped

/-- Records as a sheet of the standard fields. -/
def sheet (rows : List Stamped) : Sheet Stamped Int where
  rows := rows
  value field row := if field = StandardField.created.name then row.created.toInt else row.id.toInt

/-- The number that a cursor marks. -/
def read (text : String) : Option Int :=
  ((Text.Numeral.signed? text.toList).bind Text.Numeral.signed64?).map Int64.toInt

theorem honours_sheet (rows : List Stamped) :
    (sheet rows).Honours ((sheet rows).source read) standardCursorField read :=
  Sheet.honours_source fun row _ =>
    ⟨Table.decimal row.id, rfl, by rw [read, Table.signed64?_decimal]; rfl⟩

end Stamped

/-- A record with a great number that was made first: no number after it is found any more. -/
theorem Sheet.exists_forwardWalks_of_early_record :
    (Query.byCreation 1).Reachable .standard ∧ (Query.byCreation 1).heading = .first ∧
      (Query.byCreation 1).demand = .rows ∧ Policy.standard.endTest = .lookAhead ∧
      (Stamped.sheet [⟨5, 1⟩, ⟨3, 2⟩, ⟨4, 3⟩]).Honours
        ((Stamped.sheet [⟨5, 1⟩, ⟨3, 2⟩, ⟨4, 3⟩]).source Stamped.read) standardCursorField
        Stamped.read ∧
      ((Stamped.sheet [⟨5, 1⟩, ⟨3, 2⟩, ⟨4, 3⟩]).rows.map
        ((Stamped.sheet [⟨5, 1⟩, ⟨3, 2⟩, ⟨4, 3⟩]).value standardCursorField)).Nodup ∧
      (Stamped.sheet [⟨5, 1⟩, ⟨3, 2⟩, ⟨4, 3⟩]).rows.length < 4294967295 ∧
      (∀ row ∈ (Stamped.sheet [⟨5, 1⟩, ⟨3, 2⟩, ⟨4, 3⟩]).rows, ∀ text page,
        cursorValue row = some text →
          ((Query.byCreation 1).mark text page).utf8ByteSize ≤ tokenLimit) ∧
      ∃ moves pages page query,
        Walk (fun _ => Paging.answer .standard
          ((Stamped.sheet [⟨5, 1⟩, ⟨3, 2⟩, ⟨4, 3⟩]).source Stamped.read)) (Query.byCreation 1) moves
          (page :: pages) query ∧
        (∀ move ∈ moves, move = .next) ∧ page.nextCursor = none ∧
        Page.recordsOf (page :: pages) ≠
          (Stamped.sheet [⟨5, 1⟩, ⟨3, 2⟩, ⟨4, 3⟩]).listing (Query.byCreation 1).order := by
  have reachable := Query.byCreation_reachable 1 (by decide) (by decide)
  have honours := Stamped.honours_sheet [⟨5, 1⟩, ⟨3, 2⟩, ⟨4, 3⟩]
  have distinct : ((Stamped.sheet [⟨5, 1⟩, ⟨3, 2⟩, ⟨4, 3⟩]).rows.map
      ((Stamped.sheet [⟨5, 1⟩, ⟨3, 2⟩, ⟨4, 3⟩]).value standardCursorField)).Nodup := by decide
  have few : (Stamped.sheet [⟨5, 1⟩, ⟨3, 2⟩, ⟨4, 3⟩]).rows.length < 4294967295 := by decide
  have short : ∀ row ∈ (Stamped.sheet [⟨5, 1⟩, ⟨3, 2⟩, ⟨4, 3⟩]).rows, ∀ text page,
      cursorValue row = some text →
        ((Query.byCreation 1).mark text page).utf8ByteSize ≤ tokenLimit := by
    rintro row - text page spelled
    obtain rfl := Option.some.inj spelled
    exact Query.utf8ByteSize_mark_le _ _ _
  have looks : Policy.standard.endTest = .lookAhead := rfl
  obtain ⟨ascending, ascends, walks⟩ :=
    Sheet.exists_forwardWalks reachable rfl rfl looks honours distinct few short
  obtain rfl : true = ascending := Except.ok.inj ascends
  obtain ⟨moves, pages, page, query, walk, forward, noNext⟩ := walks.ends
  refine ⟨reachable, rfl, rfl, rfl, honours, distinct, few, short, moves, pages, page, query, walk,
    forward, noNext, fun complete => ?_⟩
  have cut := (walks.complete_iff walk forward noNext).mp complete 0 (by decide) ⟨5, 1⟩ (by decide)
  exact absurd cut (by decide)

end KeysetPaging
