import KeysetPaging.Proofs.Paging.Blocks

/-!
# Walks that tell the end in either way

How the end of the table is told may be chosen afresh for each request. A page that is not full, or
that is followed by more than it holds, is the same either way, and so is every page of a request
backward: where only the test for a full page goes on, the page number stops. What is left is the
last block if it is full. Without look-ahead its page carries a cursor for a next page, and there an
empty page without cursors ends the walk.
-/

namespace KeysetPaging

namespace Page

/-- Beside a page that is not backward, the end only decides on the cursor for the next page. -/
theorem neighbours_of_forward {query : Query} (forward : query.heading ≠ .backward)
    (ended ended' : Bool) (first last : String) (page : UInt32) :
    neighbours query ended first last page =
      { neighbours query ended' first last page with
        nextCursor := (neighbours query ended first last page).nextCursor } := by
  unfold neighbours
  cases heading : query.heading with
  | first => rfl
  | forward => rfl
  | backward => exact absurd heading forward

/-- Before the first page nothing depends on whether the end is reached. -/
theorem neighbours_of_early {query : Query} (backward : query.heading = .backward)
    {page : UInt32} (early : numberBefore page ≤ pageOne) (ended ended' : Bool)
    (first last : String) :
    neighbours query ended first last page = neighbours query ended' first last page := by
  unfold neighbours
  simp only [backward, decide_eq_true early, Bool.or_true, if_true]

end Page

/-- One table of distinct numbers, behind a source that honours seeks and counts alike throughout, and a
query for its first page: the rows are few enough to number their pages, and the total fits a page. -/
structure OneTable {ρ ε : Type} [CursorValued ρ] (source : Source Id ρ ε) (row : Int64 → ρ)
    (ids : List Int64) (first : Query) (ascending : Bool) (carried : Int64) : Prop where
  honours : Honours source row ids
  distinct : ids.Nodup
  few : ids.length < 4294967295
  opens : first.Opens ascending
  counted : ∃ total, Page.carryTotal total = .ok carried ∧
    ∀ approach : Approach, Paging.countFor source (approach.query first) = .ok total

namespace OneTable

variable {ρ ε : Type} [CursorValued ρ] {source : Source Id ρ ε} {row : Int64 → ρ} {ids : List Int64}
  {first : Query} {ascending : Bool} {carried : Int64}

theorem few_listed (table : OneTable source row ids first ascending carried) :
    (Table.listing ids ascending).length < 4294967295 := by
  rw [Table.length_listing]
  exact table.few

theorem size_pos (table : OneTable source row ids first ascending carried) : 0 < first.size.toNat :=
  UInt32.lt_iff_toNat_lt.mp table.opens.sized

/-- With look-ahead a request that reaches a block is answered by the page of the block. -/
theorem answer_ahead (table : OneTable source row ids first ascending carried) {ahead : Policy}
    (looks : ahead.endTest = .lookAhead) {approach : Approach} {place : Nat}
    (reaches : approach.Reaches first.size.toNat (Table.listing ids ascending) place)
    (inside : place = 0 ∨ place * first.size.toNat < (Table.listing ids ascending).length) :
    Paging.answer ahead source (approach.query first) =
      .ok (Page.ofBlock first row (Table.listing ids ascending) carried place) := by
  obtain ⟨total, carries, counted⟩ := table.counted
  rw [Table.length_listing] at inside
  exact reaches.answer_eq table.honours table.opens looks table.distinct table.few inside
    (counted approach) carries

end OneTable

/-- Whether a request is answered by a page that offers a next one where the listing ends: the block is
full, and a full page is all that the end is told by. -/
def Query.Overruns (query : Query) (endTest : EndTest) (listed : List Int64) (place : Nat) : Prop :=
  endTest = .fullPage ∧ query.heading ≠ .backward ∧
    (place + 1) * query.size.toNat = listed.length

namespace Approach

section Ended

variable {policy : Policy} {size : UInt32} {ascending : Bool} {ids : List Int64}
  {approach : Approach}

/-- Without look-ahead the end is reached exactly if the candidates do not fill the page. -/
theorem ended_iff_short (full : policy.endTest = .fullPage) :
    approach.ended policy size ascending ids = true ↔
      (approach.candidates ascending ids).length < size.toNat := by
  unfold ended
  rw [List.length_take, full]
  change decide (min size.toNat _ < size.toNat) = true ↔ _
  rw [decide_eq_true_eq]
  omega

/-- Unless the candidates fill the page and no more, the end is told alike. -/
theorem ended_eq_of_ne (few : ids.length < 4294967296)
    (apart : (approach.candidates ascending ids).length ≠ size.toNat) :
    approach.ended policy size ascending ids =
      approach.ended (policy.endingBy .lookAhead) size ascending ids := by
  cases mode : policy.endTest with
  | lookAhead =>
      unfold ended
      rw [mode]
      rfl
  | fullPage =>
      rw [Bool.eq_iff_iff, ended_iff_short mode, ended_iff rfl few]
      omega

end Ended

section Answer

variable {ρ ε : Type} [CursorValued ρ] {source : Source Id ρ ε} {row : Int64 → ρ}
  {ids : List Int64} {first : Query} {ascending : Bool} {approach : Approach}
  {policy other : Policy} {page : Page ρ}

/-- Policies that make the same cursors of a request answer it alike. -/
theorem answer_of_neighbours_eq (honours : Honours source row ids) (distinct : ids.Nodup)
    (opens : first.Opens ascending) (positive : pageOne ≤ approach.page)
    (fits : ¬Page.Overflows (approach.query first) (approach.ended other first.size ascending ids)
      approach.page)
    (same : ∀ head last, Page.neighbours (approach.query first)
        (approach.ended policy first.size ascending ids) head last approach.page =
      Page.neighbours (approach.query first) (approach.ended other first.size ascending ids) head
        last approach.page)
    (answered : Paging.answer policy source (approach.query first) = .ok page) :
    Paging.answer other source (approach.query first) = .ok page := by
  obtain ⟨total, counted, ⟨empty, rfl⟩ | ⟨head, last, carried, headed, lasts, -, carries, rfl⟩⟩ :=
    (answer_eq_ok_iff honours distinct opens positive).mp answered
  · exact (answer_eq_ok_iff honours distinct opens positive).mpr
      ⟨total, counted, Or.inl ⟨empty, rfl⟩⟩
  · exact (answer_eq_ok_iff honours distinct opens positive).mpr ⟨total, counted, Or.inr
      ⟨head, last, carried, headed, lasts, fits, carries, by rw [same]⟩⟩

/-- A request past the last number of the listing finds nothing, however the end is told. -/
theorem answer_beyond {carried : Int64} (table : OneTable source row ids first ascending carried)
    {place : Nat} {last : Int64}
    (lasts : (Table.block first.size.toNat place (Table.listing ids ascending)).getLast? = some last)
    (ends : (place + 1) * first.size.toNat = (Table.listing ids ascending).length) {number : UInt32}
    (positive : pageOne ≤ number) (policy : Policy) :
    Paging.answer policy source ((past last number).query first) =
      .ok (Page.bare first uncounted) := by
  have sorted := Table.listing_sorted table.distinct ascending
  have empty : (past last number).shown ascending ids first.size.toNat = [] := by
    rw [shown, candidates, Table.past_block sorted lasts, ends, List.drop_length, List.take_nil]
  have reached : pageOne ≤ (past last number).page := positive
  obtain ⟨total, -, counted⟩ := table.counted
  exact (answer_eq_ok_iff table.honours table.distinct table.opens reached).mpr
    ⟨total, counted _, Or.inl ⟨empty, rfl⟩⟩

end Answer

namespace Reaches

section Length

variable {size place : Nat} {ids : List Int64} {ascending : Bool} {approach : Approach}

theorem length_candidates_forward (distinct : ids.Nodup) {first : Query}
    (forward : (approach.query first).heading ≠ .backward)
    (reaches : approach.Reaches size (Table.listing ids ascending) place) :
    (approach.candidates ascending ids).length =
      (Table.listing ids ascending).length - place * size := by
  have sorted := Table.listing_sorted distinct ascending
  cases reaches with
  | start => rw [candidates, Nat.zero_mul, Nat.sub_zero]
  | past last number => rw [candidates, Table.past_block sorted last, List.length_drop]
  | before head number => exact absurd rfl forward

theorem length_candidates_before (distinct : ids.Nodup) {id : Int64} {page : UInt32}
    (reaches : (Approach.before id page).Reaches size (Table.listing ids ascending) place) :
    ((Approach.before id page).candidates ascending ids).length = (place + 1) * size := by
  have sorted := Table.listing_sorted distinct ascending
  have full := reaches.before_full
  cases reaches with
  | before head number =>
      rw [candidates, Table.before_block sorted head, List.length_reverse, List.length_take,
        Nat.min_eq_left (Nat.le_of_lt full)]

end Length

section Answer

variable {ρ ε : Type} [CursorValued ρ] {source : Source Id ρ ε} {row : Int64 → ρ}
  {ids : List Int64} {first : Query} {ascending : Bool} {carried : Int64} {approach : Approach}
  {place : Nat} {policy : Policy}

/-- By full pages alone the end is told as with look-ahead, unless the request overruns, or heads
backward to the first block. -/
theorem ended_eq_or (table : OneTable source row ids first ascending carried)
    (full : policy.endTest = .fullPage)
    (reaches : approach.Reaches first.size.toNat (Table.listing ids ascending) place)
    (normal : ¬(approach.query first).Overruns policy.endTest (Table.listing ids ascending) place) :
    approach.ended policy first.size ascending ids =
        approach.ended (policy.endingBy .lookAhead) first.size ascending ids ∨
      (approach.query first).heading = .backward ∧ approach.number ≤ pageOne := by
  have few := table.few
  have bare := table.opens.bare
  by_cases apart : (approach.candidates ascending ids).length = first.size.toNat
  · right
    by_cases forward : (approach.query first).heading ≠ .backward
    · refine absurd ⟨full, forward, ?_⟩ normal
      have positive := table.size_pos
      rw [reaches.length_candidates_forward table.distinct forward] at apart
      rw [size_query, Nat.succ_mul]
      omega
    · refine ⟨Classical.not_not.mp forward, ?_⟩
      cases approach with
      | start => exact absurd (start_forward bare) forward
      | past id page => exact absurd (past_forward first id page) forward
      | before id page =>
          rw [reaches.length_candidates_before table.distinct] at apart
          have zero : place = 0 := Nat.succ.inj
            (Nat.eq_of_mul_eq_mul_right table.size_pos (apart.trans (Nat.one_mul _).symm))
          rw [reaches.number_eq (by omega), zero]
          exact UInt32.le_refl pageOne
  · exact Or.inl (ended_eq_of_ne (by omega) apart)

/-- Unless it overruns, a request that reaches a block is answered by the page of the block, however the
end is told. -/
theorem answer_block (table : OneTable source row ids first ascending carried)
    (reaches : approach.Reaches first.size.toNat (Table.listing ids ascending) place)
    (inside : place = 0 ∨ place * first.size.toNat < (Table.listing ids ascending).length)
    (normal : ¬(approach.query first).Overruns policy.endTest (Table.listing ids ascending) place) :
    Paging.answer policy source (approach.query first) =
      .ok (Page.ofBlock first row (Table.listing ids ascending) carried place) := by
  have opens := table.opens
  -- The policy is compared with the one that differs from it in looking ahead alone.
  have ahead : Paging.answer (policy.endingBy .lookAhead) source (approach.query first) =
      .ok (Page.ofBlock first row (Table.listing ids ascending) carried place) :=
    table.answer_ahead rfl reaches inside
  have fits : ¬Page.Overflows (approach.query first)
      (approach.ended (policy.endingBy .lookAhead) first.size ascending ids) approach.page :=
    reaches.fits opens rfl table.distinct table.few
  cases mode : policy.endTest with
  | lookAhead => exact table.answer_ahead mode reaches inside
  | fullPage =>
      rcases reaches.ended_eq_or table mode normal with same | ⟨heads, early⟩
      · refine answer_of_neighbours_eq table.honours table.distinct opens reaches.positive ?_ ?_ ahead
        · rwa [same]
        · intro head last
          rw [same]
      · refine answer_of_neighbours_eq table.honours table.distinct opens reaches.positive ?_ ?_ ahead
        · exact fun beyond => beyond.1 heads
        · cases approach with
          | start => exact absurd heads (start_forward opens.bare)
          | past id page => exact absurd heads (past_forward first id page)
          | before id page => exact Page.neighbours_of_early heads early _ _

/-- A request that overruns is answered by the page of the last block with a cursor for a next page. -/
theorem answer_overrun (table : OneTable source row ids first ascending carried)
    (reaches : approach.Reaches first.size.toNat (Table.listing ids ascending) place)
    (overruns : (approach.query first).Overruns policy.endTest (Table.listing ids ascending) place) :
    ∃ last number, pageOne ≤ number ∧
      (Table.block first.size.toNat place (Table.listing ids ascending)).getLast? = some last ∧
      Paging.answer policy source (approach.query first) =
        .ok { Page.ofBlock first row (Table.listing ids ascending) carried place with
          nextCursor := some (first.mark (Table.decimal last) number) } := by
  obtain ⟨full, forward, ends⟩ := overruns
  rw [size_query] at ends
  have bare := table.opens.bare
  have inside : place * first.size.toNat < (Table.listing ids ascending).length := by
    rw [← ends]
    exact Nat.mul_lt_mul_of_pos_right (Nat.lt_succ_self place) table.size_pos
  have ahead : Paging.answer (policy.endingBy .lookAhead) source (approach.query first) =
      .ok (Page.ofBlock first row (Table.listing ids ascending) carried place) :=
    table.answer_ahead rfl reaches (Or.inr inside)
  have unended : approach.ended policy first.size ascending ids = false := by
    refine Bool.eq_false_iff.mpr (mt (ended_iff_short full).mp ?_)
    rw [reaches.length_candidates_forward table.distinct forward, ← ends, Nat.succ_mul]
    omega
  have below : approach.page ≠ 4294967295 := by
    intro greatest
    have number := reaches.page_toNat forward
    have bound := Nat.le_mul_of_pos_right (place + 1) table.size_pos
    have few := table.few_listed
    rw [greatest] at number
    change 4294967295 = place + 1 at number
    omega
  have fits : ¬Page.Overflows (approach.query first) false approach.page :=
    fun beyond => below beyond.2.2
  have goes : ¬((approach.query first).heading ≠ .backward ∧ false = true) :=
    fun stop => Bool.false_ne_true stop.2
  have shown := reaches.shown_eq table.distinct
  obtain ⟨total, counted, ⟨empty, -⟩ | ⟨head, last, total', headed, lasts, -, carries, shape⟩⟩ :=
    (answer_eq_ok_iff table.honours table.distinct table.opens reaches.positive).mp ahead
  · rw [shown, Table.block_eq_nil_iff table.size_pos] at empty
    omega
  have next := nextCursor_neighbours bare approach false (Table.decimal head) (Table.decimal last)
  rw [if_neg goes] at next
  refine ⟨last, approach.nextNumber, positive_nextNumber reaches.positive fits goes, ?_, ?_⟩
  · rwa [shown] at lasts
  · refine (answer_eq_ok_iff table.honours table.distinct table.opens reaches.positive).mpr
      ⟨total, counted, Or.inr
        ⟨head, last, total', headed, lasts, by rwa [unended], carries, ?_⟩⟩
    rw [shape, unended, Page.neighbours_of_forward forward false
      (approach.ended (policy.endingBy .lookAhead) first.size ascending ids), next]
    rfl

end Answer

end Reaches

end Approach

section Walks

variable {ρ ε : Type} {first : Query} {row : Int64 → ρ} {ids : List Int64} {ascending : Bool}
  {carried : Int64}

/-- Where a walk can stand, after so many more moves forward than back: on the page of a block, on the
page of the last block with a cursor for a page too many, or on the empty page behind that. -/
inductive Stands (endTest : EndTest) (first : Query) (row : Int64 → ρ) (listed : List Int64)
    (carried : Int64) : Approach → Int → Page ρ → Prop where
  | block {approach : Approach} {place : Nat}
      (reaches : approach.Reaches first.size.toNat listed place)
      (normal : ¬(approach.query first).Overruns endTest listed place) :
      Stands endTest first row listed carried approach place
        (Page.ofBlock first row listed carried place)
  | overrun {approach : Approach} {place : Nat} {last : Int64} {number : UInt32}
      (positive : pageOne ≤ number)
      (lasts : (Table.block first.size.toNat place listed).getLast? = some last)
      (overruns : (approach.query first).Overruns endTest listed place) :
      Stands endTest first row listed carried approach place
        { Page.ofBlock first row listed carried place with
          nextCursor := some (first.mark (Table.decimal last) number) }
  | beyond {approach : Approach} {net : Int} :
      Stands endTest first row listed carried approach net (Page.bare first uncounted)

section Stands

variable {endTest : EndTest} {listed : List Int64} {approach : Approach} {net : Int} {page : Page ρ}

/-- A page with records is the one of a block, but for the cursor for the next page, and altogether
unless its request overruns. -/
theorem Stands.exists_block (sized : 0 < first.size)
    (stands : Stands endTest first row listed carried approach net page) (filled : page.records ≠ []) :
    ∃ place : Nat, net = place ∧ place * first.size.toNat < listed.length ∧
      page = { Page.ofBlock first row listed carried place with nextCursor := page.nextCursor } ∧
      (¬(approach.query first).Overruns endTest listed place →
        page = Page.ofBlock first row listed carried place) := by
  have positive : 0 < first.size.toNat := UInt32.lt_iff_toNat_lt.mp sized
  have inside : ∀ {place : Nat}, (Table.block first.size.toNat place listed).map row ≠ [] →
      place * first.size.toNat < listed.length := fun filled =>
    Nat.not_le.mp fun beyond =>
      filled (List.map_eq_nil_iff.mpr ((Table.block_eq_nil_iff positive).mpr beyond))
  cases stands with
  | block reaches normal => exact ⟨_, rfl, inside filled, rfl, fun _ => rfl⟩
  | overrun number lasts overruns =>
      exact ⟨_, rfl, inside filled, rfl, fun normal => absurd overruns normal⟩
  | beyond => exact absurd rfl filled

/-- A page without records has no cursors. -/
theorem Stands.cursors_of_empty
    (stands : Stands endTest first row listed carried approach net page) (empty : page.records = []) :
    page.prevCursor = none ∧ page.nextCursor = none := by
  cases stands with
  | @block place reaches normal =>
      have empty : Table.block first.size.toNat place listed = [] := List.map_eq_nil_iff.mp empty
      simp [Page.ofBlock, empty]
  | overrun number lasts overruns =>
      rw [List.map_eq_nil_iff.mp empty] at lasts
      cases lasts
  | beyond => exact ⟨rfl, rfl⟩

end Stands

variable [CursorValued ρ] {source : Source Id ρ ε}

/-- A request that reaches a block is answered, however the end is told. -/
theorem Approach.Reaches.exists_stands (table : OneTable source row ids first ascending carried)
    {approach : Approach} {place : Nat}
    (reaches : approach.Reaches first.size.toNat (Table.listing ids ascending) place)
    (inside : place = 0 ∨ place * first.size.toNat < (Table.listing ids ascending).length)
    (policy : Policy) :
    ∃ page, Paging.answer policy source (approach.query first) = .ok page ∧
      Stands policy.endTest first row (Table.listing ids ascending) carried approach place page := by
  by_cases overruns :
      (approach.query first).Overruns policy.endTest (Table.listing ids ascending) place
  · obtain ⟨last, number, positive, lasts, answered⟩ := reaches.answer_overrun table overruns
    exact ⟨_, answered, .overrun positive lasts overruns⟩
  · exact ⟨_, reaches.answer_block table inside overruns, .block reaches overruns⟩

/-- Wherever a walk stands, a cursor of its page leads on to where a walk can stand. -/
theorem Stands.exists_onward (table : OneTable source row ids first ascending carried)
    {endTest : EndTest} {approach : Approach} {net : Int} {page : Page ρ}
    (stands : Stands endTest first row (Table.listing ids ascending) carried approach net page)
    {next : Query} {move : Neighbour} (leads : page.beside (approach.query first) move = some next) :
    ∃ onward : Approach, next = onward.query first ∧ ∀ policy : Policy, ∃ later,
      Paging.answer policy source next = .ok later ∧
      Stands policy.endTest first row (Table.listing ids ascending) carried onward
        (net + move.step) later := by
  -- A cursor that the page of the block carries as well leads to a block.
  have toBlock : ∀ {place : Nat},
      (Page.ofBlock first row (Table.listing ids ascending) carried place).beside
        (approach.query first) move = some next →
      ∃ onward : Approach, next = onward.query first ∧ ∀ policy : Policy, ∃ later,
        Paging.answer policy source next = .ok later ∧
        Stands policy.endTest first row (Table.listing ids ascending) carried onward
          (place + move.step) later := by
    intro place leads
    obtain ⟨onward, target, rfl, reaches, inside, moved⟩ :=
      Page.exists_reaches_of_beside table.opens.sized table.few_listed leads
    refine ⟨onward, rfl, fun policy => ?_⟩
    rw [← moved]
    exact reaches.exists_stands table (Or.inr inside) policy
  cases stands with
  | block reaches normal => exact toBlock leads
  | @overrun place last number positive lasts overruns =>
      cases move with
      | prev => exact toBlock leads
      | next =>
          have ends := overruns.2.2
          rw [Approach.size_query] at ends
          refine ⟨.past last number, ?_, fun policy => ⟨_, ?_, .beyond⟩⟩
          · rw [← Option.some.inj leads, Approach.following_query]
            rfl
          · rw [← Option.some.inj leads, Approach.following_query]
            exact Approach.answer_beyond table lasts ends positive policy
  | beyond => cases move <;> cases leads

/-- Whatever tells the end at each request, every walk stands somewhere. -/
theorem Walk.exists_stands (table : OneTable source row ids first ascending carried)
    {policies : Nat → Policy} {moves : List Neighbour} {pages : List (Page ρ)} {page : Page ρ}
    {query : Query}
    (walk : Walk (fun i => Paging.answer (policies i) source) first moves (page :: pages) query) :
    ∃ approach : Approach, query = approach.query first ∧
      Stands (policies moves.length).endTest first row (Table.listing ids ascending) carried approach
        (Neighbour.net moves) page := by
  induction walk using Walk.stepwise with
  | @first page answered =>
      obtain ⟨own, served, stands⟩ :=
        Approach.Reaches.start.exists_stands table (Or.inl rfl) (policies 0)
      change Paging.answer (policies 0) source (Approach.start.query first) = .ok page at answered
      rw [answered] at served
      cases served
      exact ⟨.start, rfl, stands⟩
  | @turn moves pages page latest query next move walk leads answered ih =>
      obtain ⟨approach, rfl, stands⟩ := ih
      obtain ⟨onward, rfl, goes⟩ := stands.exists_onward table leads
      obtain ⟨later, served, stands⟩ := goes (policies (moves.length + 1))
      rw [answered] at served
      cases served
      rw [Neighbour.net_cons]
      exact ⟨onward, rfl, stands⟩

/-- Some walk comes to the page, by so many more moves forward than back. -/
def ComesTo (answer : Query → Except (Failure ε) (Page ρ)) (first : Query) (net : Int)
    (page : Page ρ) : Prop :=
  ∃ moves seen query, Walk (fun _ => answer) first moves (page :: seen) query ∧
    Neighbour.net moves = net

/-- With look-ahead a walk comes to every block of the listing. -/
theorem exists_comesTo (table : OneTable source row ids first ascending carried) {ahead : Policy}
    (looks : ahead.endTest = .lookAhead) {place : Nat}
    (inside : place = 0 ∨ place * first.size.toNat < (Table.listing ids ascending).length) :
    ComesTo (Paging.answer ahead source) first place
      (Page.ofBlock first row (Table.listing ids ascending) carried place) := by
  induction place with
  | zero => exact ⟨[], [], first, .first (table.answer_ahead looks .start (Or.inl rfl)), rfl⟩
  | succ place ih =>
      have more : (place + 1) * first.size.toNat < (Table.listing ids ascending).length :=
        inside.resolve_left (Nat.succ_ne_zero place)
      have before := Nat.lt_of_le_of_lt (Nat.mul_le_mul_right _ (Nat.le_succ place)) more
      obtain ⟨moves, seen, query, walk, net⟩ := ih (Or.inr before)
      obtain ⟨approach, rfl, -⟩ := walk.exists_stands table
      obtain ⟨token, found⟩ := Option.isSome_iff_exists.mp
        ((Page.hasNext_ofBlock table.opens.sized).mpr more)
      have leads : (Page.ofBlock first row (Table.listing ids ascending) carried place).beside
          (approach.query first) .next = some ((approach.query first).following token) :=
        congrArg (Option.map (approach.query first).following) found
      obtain ⟨onward, target, same, reaches, -, moved⟩ :=
        Page.exists_reaches_of_beside table.opens.sized table.few_listed leads
      have landed : target = place + 1 := Int.ofNat.inj moved
      rw [landed] at reaches
      have answered := table.answer_ahead looks reaches inside
      rw [← same] at answered
      refine ⟨_, _, _, .turn walk leads answered, ?_⟩
      rw [Neighbour.net_cons, net]
      rfl

/-- With look-ahead every walk comes to the page of a block. -/
theorem ComesTo.eq_ofBlock (table : OneTable source row ids first ascending carried)
    {ahead : Policy} (looks : ahead.endTest = .lookAhead) {place : Nat} {page : Page ρ}
    (comes : ComesTo (Paging.answer ahead source) first place page) :
    page = Page.ofBlock first row (Table.listing ids ascending) carried place := by
  obtain ⟨moves, seen, query, walk, net⟩ := comes
  obtain ⟨approach, own, -, stands, rfl, -⟩ :=
    walk.exists_block table.opens.sized table.few_listed (table.answer_ahead looks)
  rw [Int.ofNat.inj (stands.symm.trans net)]

/-- What holds of all walks over one table that tell the end afresh at each request. -/
structure ModesAgree (policies : Nat → Policy) (source : Source Id ρ ε) (first : Query)
    (row : Int64 → ρ) (listed : List Int64) : Prop where
  /-- Every request of a walk is answered. -/
  begins : ∃ page, Paging.answer (policies 0) source first = .ok page
  continues : ∀ {moves : List Neighbour} {seen : List (Page ρ)} {page : Page ρ}
    {query next : Query} {move : Neighbour},
    Walk (fun i => Paging.answer (policies i) source) first moves (page :: seen) query →
      page.beside query move = some next →
      ∃ later, Paging.answer (policies (moves.length + 1)) source next = .ok later
  visits : ∀ {moves : List Neighbour} {seen : List (Page ρ)} {page : Page ρ} {query : Query},
    Walk (fun i => Paging.answer (policies i) source) first moves (page :: seen) query →
      page.records ≠ [] → ∃ place : Nat, Neighbour.net moves = place ∧
        page.records = (Table.block first.size.toNat place listed).map row
  /-- But for the cursor for the next page, a page is the one that walks with look-ahead come to, and
  that cursor differs only where a request overruns. -/
  agrees : ∀ {moves : List Neighbour} {seen : List (Page ρ)} {page : Page ρ} {query : Query}
    {place : Nat} {ahead : Policy},
    Walk (fun i => Paging.answer (policies i) source) first moves (page :: seen) query →
      page.records ≠ [] → Neighbour.net moves = place → ahead.endTest = .lookAhead →
      (∃ pure, ComesTo (Paging.answer ahead source) first place pure) ∧
      ∀ pure, ComesTo (Paging.answer ahead source) first place pure →
        page = { pure with nextCursor := page.nextCursor } ∧
        (¬query.Overruns (policies moves.length).endTest listed place →
          page.nextCursor = pure.nextCursor)
  /-- Where a request overruns, an empty page without cursors follows. -/
  overruns : ∀ {moves : List Neighbour} {seen : List (Page ρ)} {page : Page ρ} {query : Query}
    {place : Nat},
    Walk (fun i => Paging.answer (policies i) source) first moves (page :: seen) query →
      page.records ≠ [] → Neighbour.net moves = place →
      query.Overruns (policies moves.length).endTest listed place →
      ∃ next, page.following query = some next ∧ ∀ policy, ∃ emptyPage,
        Paging.answer policy source next = .ok emptyPage ∧ emptyPage.records = [] ∧
        emptyPage.prevCursor = none ∧ emptyPage.nextCursor = none
  /-- Nothing follows an empty page. -/
  ends : ∀ {moves : List Neighbour} {seen : List (Page ρ)} {page : Page ρ} {query : Query},
    Walk (fun i => Paging.answer (policies i) source) first moves (page :: seen) query →
      page.records = [] → page.prevCursor = none ∧ page.nextCursor = none

/-- However the end is told at each request, walks over one table agree. -/
theorem exists_modesAgree {settings : Settings} (reachable : first.Reachable settings)
    (bare : first.heading = .first) (rows : first.demand.wantsRows = true)
    (honours : Honours source row ids) (distinct : ids.Nodup) (few : ids.length < 4294967295)
    {total : Option UInt64} (counts : ∀ query, source.count query = .ok total)
    (fits : ∀ count, total = some count → count.toNat < 9223372036854775808)
    (policies : Nat → Policy) :
    ∃ ascending, first.ascending = .ok ascending ∧
      ModesAgree policies source first row (Table.listing ids ascending) := by
  obtain ⟨ascending, opens⟩ := reachable.exists_opens bare rows
  obtain ⟨carried, carries⟩ := Page.exists_carryTotal fits first.demand.wantsTotal
  have table : OneTable source row ids first ascending carried :=
    ⟨honours, distinct, few, opens, _, carries, Paging.countFor_query counts⟩
  refine ⟨ascending, opens.ascends, ?_, ?_, ?_, ?_, ?_, ?_⟩
  · obtain ⟨page, answered, -⟩ :=
      Approach.Reaches.start.exists_stands table (Or.inl rfl) (policies 0)
    exact ⟨page, answered⟩
  · intro moves seen page query next move walk leads
    obtain ⟨approach, rfl, stands⟩ := walk.exists_stands table
    obtain ⟨onward, -, goes⟩ := stands.exists_onward table leads
    obtain ⟨later, answered, -⟩ := goes (policies (moves.length + 1))
    exact ⟨later, answered⟩
  · intro moves seen page query walk filled
    obtain ⟨approach, rfl, stands⟩ := walk.exists_stands table
    obtain ⟨place, net, -, shape, -⟩ := stands.exists_block opens.sized filled
    exact ⟨place, net, by rw [shape]; rfl⟩
  · intro moves seen page query place ahead walk filled net looks
    obtain ⟨approach, rfl, stands⟩ := walk.exists_stands table
    obtain ⟨own, counted, inside, shape, normal⟩ := stands.exists_block opens.sized filled
    obtain rfl := Int.ofNat.inj (counted.symm.trans net)
    refine ⟨⟨_, exists_comesTo table looks (Or.inr inside)⟩, fun pure comes => ?_⟩
    rw [comes.eq_ofBlock table looks]
    exact ⟨shape, fun alike => congrArg Page.nextCursor (normal alike)⟩
  · intro moves seen page query place walk filled net overruns
    obtain ⟨approach, rfl, stands⟩ := walk.exists_stands table
    rw [net] at stands
    generalize counted : (place : Int) = count at stands
    cases stands with
    | block reaches normal => exact absurd overruns (Int.ofNat.inj counted ▸ normal)
    | overrun positive lasts _ =>
        have ends := overruns.2.2
        rw [Approach.size_query, Int.ofNat.inj counted] at ends
        refine ⟨_, rfl, fun policy => ⟨Page.bare first uncounted, ?_, rfl, rfl, rfl⟩⟩
        rw [Approach.following_query]
        exact Approach.answer_beyond table lasts ends positive policy
    | beyond => exact absurd rfl filled
  · intro moves seen page query walk empty
    obtain ⟨approach, rfl, stands⟩ := walk.exists_stands table
    exact stands.cursors_of_empty empty

end Walks

/-- Four numbers in pages of two, with look-ahead at every other request. -/
theorem exists_modesAgree_of_full_blocks :
    (Query.latest 2 []).Reachable .standard ∧ (Query.latest 2 []).heading = .first ∧
      (Query.latest 2 []).demand.wantsRows = true ∧
      Honours (Table.ofIds [4, -1, 9, 2]).source Table.row [4, -1, 9, 2] ∧
      [(4 : Int64), -1, 9, 2].Nodup ∧ [(4 : Int64), -1, 9, 2].length < 4294967295 ∧
      (∀ query, (Table.ofIds [4, -1, 9, 2]).source.count query = .ok (some 4)) ∧
      (∀ count, some (4 : UInt64) = some count → count.toNat < 9223372036854775808) ∧
      ∃ ascending, (Query.latest 2 []).ascending = .ok ascending ∧
        ModesAgree
          (fun i => Policy.standard.endingBy (if i % 2 = 0 then .lookAhead else .fullPage))
          (Table.ofIds [4, -1, 9, 2]).source (Query.latest 2 []) Table.row
          (Table.listing [4, -1, 9, 2] ascending) := by
  have reachable := Query.latest_reachable 2 (by decide) (by decide) []
  have honours : Honours (Table.ofIds [4, -1, 9, 2]).source Table.row [4, -1, 9, 2] :=
    Table.honours rfl rfl
  have distinct : [(4 : Int64), -1, 9, 2].Nodup := by decide
  have few : [(4 : Int64), -1, 9, 2].length < 4294967295 := by decide
  have counts : ∀ query, (Table.ofIds [4, -1, 9, 2]).source.count query = .ok (some 4) :=
    fun _ => rfl
  have fits : ∀ count, some (4 : UInt64) = some count → count.toNat < 9223372036854775808 := by
    rintro count ⟨⟩
    decide
  exact ⟨reachable, rfl, rfl, honours, distinct, few, counts, fits,
    exists_modesAgree reachable rfl rfl honours distinct few counts fits _⟩

end KeysetPaging
