import KeysetPaging.Proofs.Paging.Approach

/-!
# Walks from page to page

A walk starts with a request for the first page and follows the cursors that pages carry for their
neighbours. Each request of a walk comes from the start, past the last number of the page before it,
or before the first one, and its page shows the numbers that the request heads for.
-/

namespace KeysetPaging

/-- The request for a neighbouring page, if the page carries its cursor. -/
def Page.beside {ρ : Type} (page : Page ρ) (query : Query) : Neighbour → Option Query
  | .prev => page.preceding query
  | .next => page.following query

/-- The moves of a walk and its pages, the latest first, and the latest request. -/
inductive Walk {ρ ε : Type} (answers : Nat → Query → Except (Failure ε) (Page ρ)) (first : Query) :
    List Neighbour → List (Page ρ) → Query → Prop where
  | first {page : Page ρ} (answered : answers 0 first = .ok page) :
      Walk answers first [] [page] first
  | turn {moves : List Neighbour} {pages : List (Page ρ)} {page latest : Page ρ}
      {query next : Query} {move : Neighbour} (walk : Walk answers first moves (page :: pages) query)
      (leads : page.beside query move = some next)
      (answered : answers (moves.length + 1) next = .ok latest) :
      Walk answers first (move :: moves) (latest :: page :: pages) next

/-- What the first page has and every turn keeps holds after every walk. -/
@[elab_as_elim]
theorem Walk.stepwise {ρ ε : Type} {answers : Nat → Query → Except (Failure ε) (Page ρ)}
    {opening : Query}
    {motive : ∀ moves pages page query, Walk answers opening moves (page :: pages) query → Prop}
    (first : ∀ {page : Page ρ} (answered : answers 0 opening = .ok page),
      motive [] [] page opening (.first answered))
    (turn : ∀ {moves : List Neighbour} {pages : List (Page ρ)} {page latest : Page ρ}
      {query next : Query} {move : Neighbour}
      (walk : Walk answers opening moves (page :: pages) query)
      (leads : page.beside query move = some next)
      (answered : answers (moves.length + 1) next = .ok latest),
      motive moves pages page query walk →
        motive (move :: moves) (page :: pages) latest next (.turn walk leads answered))
    {moves : List Neighbour} {pages : List (Page ρ)} {page : Page ρ} {query : Query}
    (walk : Walk answers opening moves (page :: pages) query) :
    motive moves pages page query walk := by
  cases walk with
  | first answered => exact first answered
  | turn walk leads answered => exact turn walk leads answered (stepwise first turn walk)

namespace Approach

/-- The number of the page that the request comes to. -/
def number : Approach → UInt32
  | .start => pageOne
  | .past _ page => page
  | .before _ page => Page.numberBefore page

/-- The number of the page after the one that the request comes to. -/
def nextNumber : Approach → UInt32
  | .start => pageOne + 1
  | .past _ page => page + 1
  | .before _ page => page

/-- The approach by the cursor that a page between two numbers carries for a neighbour. -/
def toward (head last : Int64) (approach : Approach) : Neighbour → Approach
  | .prev => .before head approach.number
  | .next => .past last approach.nextNumber

theorem number_neighbours {first : Query} (bare : first.heading = .first) (approach : Approach)
    (ended : Bool) (head last : String) :
    (Page.neighbours (approach.query first) ended head last approach.page).number =
      approach.number := by
  cases approach with
  | start =>
      rw [Page.neighbours, query, bare]
      rfl
  | past id page => rfl
  | before id page => rfl

theorem positive_number {approach : Approach} (positive : pageOne ≤ approach.page) :
    pageOne ≤ approach.number := by
  cases approach with
  | start => exact positive
  | past id page => exact positive
  | before id page => exact Page.pageOne_le_numberBefore page

/-- The cursor for the next page marks the last record, and there is none only at the end. -/
theorem nextCursor_neighbours {first : Query} (bare : first.heading = .first)
    (approach : Approach) (ended : Bool) (head last : String) :
    (Page.neighbours (approach.query first) ended head last approach.page).nextCursor =
      if (approach.query first).heading ≠ .backward ∧ ended = true then none
      else some (first.mark last approach.nextNumber) := by
  cases approach with
  | start =>
      rw [Page.neighbours, query, bare]
      cases ended <;> rfl
  | past id page => cases ended <;> rfl
  | before id page => rfl

theorem prevCursor_neighbours {first : Query} (bare : first.heading = .first)
    (approach : Approach) (ended : Bool) (head last : String) :
    (Page.neighbours (approach.query first) ended head last approach.page).prevCursor =
      match approach with
      | .start => none
      | .past _ _ => some (first.mark head approach.number)
      | .before _ _ =>
          if ended || approach.number ≤ pageOne then none
          else some (first.mark head approach.number) := by
  cases approach with
  | start =>
      rw [Page.neighbours, query, bare]
  | past id page => rfl
  | before id page => rfl

theorem prevCursor_eq_mark {first : Query} (bare : first.heading = .first) {approach : Approach}
    {ended : Bool} {head last token : String}
    (found : (Page.neighbours (approach.query first) ended head last approach.page).prevCursor =
      some token) : token = first.mark head approach.number := by
  rw [prevCursor_neighbours bare] at found
  cases approach with
  | start => cases found
  | past id page => exact (Option.some.inj found).symm
  | before id page =>
      dsimp only at found
      split at found
      · cases found
      · exact (Option.some.inj found).symm

/-- What a page that answers a request tells about the table: its records are the numbers that the
request heads for, its cursors mark the first and the last of them, and a page that is not for a
request backward lacks a cursor for the next page only if nothing lies past it. -/
structure Shows {ρ : Type} (first : Query) (ascending : Bool) (row : Int64 → ρ) (ids : List Int64)
    (approach : Approach) (page : Page ρ) : Prop where
  records : page.records = (approach.shown ascending ids first.size.toNat).map row
  leads : ∀ move next, page.beside (approach.query first) move = some next →
    ∃ head last, (approach.shown ascending ids first.size.toNat).head? = some head ∧
      (approach.shown ascending ids first.size.toNat).getLast? = some last ∧
      next = (approach.toward head last move).query first ∧
      pageOne ≤ (approach.toward head last move).page
  complete : page.nextCursor = none → (approach.query first).heading ≠ .backward →
    (approach.candidates ascending ids).length ≤ first.size.toNat

theorem positive_nextNumber {first : Query} {approach : Approach}
    (positive : pageOne ≤ approach.page) {ended : Bool}
    (fits : ¬Page.Overflows (approach.query first) ended approach.page)
    (unended : ¬((approach.query first).heading ≠ .backward ∧ ended = true)) :
    pageOne ≤ approach.nextNumber := by
  cases approach with
  | start => decide
  | past id page =>
      have forward := past_forward first id page
      refine Page.pageOne_le_succ fun greatest => fits ⟨forward, ?_, greatest⟩
      exact Bool.eq_false_iff.mpr fun ended => unended ⟨forward, ended⟩
  | before id page => exact positive

theorem preceding_query (first : Query) (approach : Approach) (token : String) :
    (approach.query first).preceding token = first.preceding token := by
  cases approach <;> rfl

theorem following_query (first : Query) (approach : Approach) (token : String) :
    (approach.query first).following token = first.following token := by
  cases approach <;> rfl

theorem shows_of_placed {ρ : Type} {first : Query} (bare : first.heading = .first)
    {ascending : Bool} {row : Int64 → ρ} {ids : List Int64} (few : ids.length < 4294967296)
    {policy : Policy} {approach : Approach} (positive : pageOne ≤ approach.page) {head last : Int64}
    (headed : (approach.shown ascending ids first.size.toNat).head? = some head)
    (lasts : (approach.shown ascending ids first.size.toNat).getLast? = some last)
    (fits : ¬Page.Overflows (approach.query first) (approach.ended policy first.size ascending ids)
      approach.page) (total : Int64) :
    approach.Shows first ascending row ids
      (Page.placed (approach.query first)
        ((approach.shown ascending ids first.size.toNat).map row) total
        (Page.neighbours (approach.query first) (approach.ended policy first.size ascending ids)
          (Table.decimal head) (Table.decimal last) approach.page)) where
  records := rfl
  leads := by
    intro move next leads
    refine ⟨head, last, headed, lasts, ?_⟩
    cases move with
    | prev =>
        obtain ⟨token, found, rfl⟩ := Option.map_eq_some_iff.mp leads
        change Page.Place.prevCursor _ = some token at found
        rw [preceding_query, prevCursor_eq_mark bare found]
        exact ⟨rfl, positive_number positive⟩
    | next =>
        obtain ⟨token, found, rfl⟩ := Option.map_eq_some_iff.mp leads
        change Page.Place.nextCursor _ = some token at found
        rw [nextCursor_neighbours bare] at found
        by_cases stop : (approach.query first).heading ≠ .backward ∧
            approach.ended policy first.size ascending ids = true
        · rw [if_pos stop] at found
          cases found
        · rw [if_neg stop] at found
          rw [following_query, ← Option.some.inj found]
          exact ⟨rfl, positive_nextNumber positive fits stop⟩
  complete := by
    intro noNext ahead
    change Page.Place.nextCursor _ = none at noNext
    rw [nextCursor_neighbours bare] at noNext
    by_cases stop : (approach.query first).heading ≠ .backward ∧
        approach.ended policy first.size ascending ids = true
    · exact length_candidates_le_of_ended few stop.2
    · rw [if_neg stop] at noNext
      cases noNext

theorem shows_bare {ρ : Type} {first : Query} {ascending : Bool} {row : Int64 → ρ}
    {ids : List Int64} (sized : 0 < first.size) {approach : Approach}
    (empty : approach.shown ascending ids first.size.toNat = []) :
    approach.Shows first ascending row ids (Page.bare first uncounted) where
  records := by
    rw [empty]
    rfl
  leads := by
    intro move next leads
    cases move <;> cases leads
  complete := by
    intro _ _
    rw [candidates_eq_nil_of_shown (UInt32.lt_iff_toNat_lt.mp sized) empty]
    exact Nat.zero_le _

/-- Every page that answers a request shows what the request heads for. -/
theorem shows_of_answer {ρ ε : Type} [CursorValued ρ] {source : Source Id ρ ε} {row : Int64 → ρ}
    {ids : List Int64} (honours : Honours source row ids) (distinct : ids.Nodup)
    (few : ids.length < 4294967296) {first : Query} {ascending : Bool}
    (opens : first.Opens ascending) {approach : Approach} (positive : pageOne ≤ approach.page)
    {policy : Policy} {page : Page ρ}
    (answered : Paging.answer policy source (approach.query first) = .ok page) :
    approach.Shows first ascending row ids page := by
  obtain ⟨total, -, ⟨empty, rfl⟩ | ⟨head, last, carried, headed, lasts, fits, -, rfl⟩⟩ :=
    (answer_eq_ok_iff honours distinct opens positive).mp answered
  · exact shows_bare opens.sized empty
  · exact shows_of_placed opens.bare few positive headed lasts fits carried

end Approach

/-- Tables of distinct numbers, one for each request, behind sources that honour seeks. -/
structure Tables {ρ ε : Type} [CursorValued ρ] (sources : Nat → Source Id ρ ε)
    (row : Nat → Int64 → ρ) (ids : Nat → List Int64) : Prop where
  honours : ∀ i, Honours (sources i) (row i) (ids i)
  distinct : ∀ i, (ids i).Nodup
  few : ∀ i, (ids i).length < 4294967296

theorem Tables.shows {ρ ε : Type} [CursorValued ρ] {sources : Nat → Source Id ρ ε}
    {row : Nat → Int64 → ρ} {ids : Nat → List Int64} (tables : Tables sources row ids) {first : Query}
    {ascending : Bool} (opens : first.Opens ascending) {approach : Approach}
    (positive : pageOne ≤ approach.page) {policy : Policy} {i : Nat} {page : Page ρ}
    (answered : Paging.answer policy (sources i) (approach.query first) = .ok page) :
    approach.Shows first ascending (row i) (ids i) page :=
  Approach.shows_of_answer (tables.honours i) (tables.distinct i) (tables.few i) opens positive
    answered

/-- Every request of a walk comes from the start or from a cursor of the page before it. -/
theorem Walk.exists_approach {ρ ε : Type} [CursorValued ρ] {policy : Policy}
    {sources : Nat → Source Id ρ ε} {row : Nat → Int64 → ρ} {ids : Nat → List Int64}
    (tables : Tables sources row ids) {first : Query} {ascending : Bool}
    (opens : first.Opens ascending) {moves : List Neighbour} {pages : List (Page ρ)}
    {page : Page ρ} {query : Query}
    (walk : Walk (fun i => Paging.answer policy (sources i)) first moves (page :: pages) query) :
    ∃ approach : Approach, query = approach.query first ∧ pageOne ≤ approach.page ∧
      approach.Shows first ascending (row moves.length) (ids moves.length) page := by
  induction walk using Walk.stepwise with
  | first answered =>
      change Paging.answer policy (sources 0) (Approach.start.query first) = _ at answered
      have positive : pageOne ≤ Approach.start.page := UInt32.le_refl pageOne
      exact ⟨.start, rfl, positive, tables.shows opens positive answered⟩
  | @turn moves pages page latest query next move walk leads answered ih =>
      obtain ⟨approach, rfl, -, shows⟩ := ih
      obtain ⟨head, last, -, -, rfl, positive⟩ := shows.leads move next leads
      exact ⟨_, rfl, positive, tables.shows opens positive answered⟩

end KeysetPaging
