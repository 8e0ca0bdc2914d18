import KeysetPaging.Proofs.Paging.Walk

/-!
# Walks over a table that changes

Each request of a walk may find another table. Still every page is sorted and holds no more rows than
the query asks for, and the page after a move lies entirely beyond the page before it. A walk that
only moves forward returns nothing twice, and when its last page has no cursor for a next page, every
number that was in all of the tables has been returned.
-/

namespace KeysetPaging

section View

variable {ρ : Type} [CursorValued ρ]

/-- The numbers that the records of a page spell. -/
def Page.ids (page : Page ρ) : List Int64 :=
  page.records.filterMap fun record => (cursorValue record).bind fun value =>
    (Text.Numeral.signed? value.toList).bind Text.Numeral.signed64?

/-- The numbers on the pages of a walk, the earliest page first. -/
def Page.idsOf (pages : List (Page ρ)) : List Int64 :=
  pages.reverse.flatMap Page.ids

theorem Page.idsOf_cons (page : Page ρ) (pages : List (Page ρ)) :
    idsOf (page :: pages) = idsOf pages ++ page.ids := by
  simp [idsOf]

end View

namespace Approach

/-- The numbers on a page are sorted. -/
theorem shown_sorted {ids : List Int64} (distinct : ids.Nodup) (ascending : Bool) (size : Nat)
    (approach : Approach) :
    (approach.shown ascending ids size).Pairwise
      fun left right => Table.precedes ascending left right = true := by
  have sorted := Table.listing_sorted distinct ascending
  cases approach with
  | start => exact sorted.sublist (List.take_sublist _ _)
  | past id page =>
      exact sorted.sublist ((List.take_sublist _ _).trans (Table.past_sublist ascending id _))
  | before id page =>
      have front := sorted.sublist (Table.past_sublist (!ascending) id _)
      rw [← Table.before_eq_past] at front
      have turned := List.pairwise_reverse.mpr front
      exact List.pairwise_reverse.mpr (turned.sublist (List.take_sublist _ _))

end Approach

theorem Approach.Shows.ids_eq {ρ ε : Type} [CursorValued ρ] {source : Source Id ρ ε}
    {row : Int64 → ρ} {ids : List Int64} (honours : Honours source row ids) {first : Query}
    {ascending : Bool} {approach : Approach} {page : Page ρ}
    (shows : approach.Shows first ascending row ids page) :
    page.ids = approach.shown ascending ids first.size.toNat := by
  rw [Page.ids, shows.records, List.filterMap_map]
  have own : ∀ id ∈ approach.shown ascending ids first.size.toNat,
      ((fun record => (cursorValue record).bind fun value =>
        (Text.Numeral.signed? value.toList).bind Text.Numeral.signed64?) ∘ row) id = some id := by
    intro id member
    rw [Function.comp_apply, Approach.valued_shown honours member, Option.bind_some]
    exact Table.signed64?_decimal id
  rw [List.filterMap_congr own, List.filterMap_some]

/-- A page of a walk: no more rows than asked for, each a row of the table that answered, in strict
order. -/
structure Page.Sound {ρ : Type} [CursorValued ρ] (page : Page ρ) (size : UInt32) (ascending : Bool)
    (row : Int64 → ρ) (ids : List Int64) : Prop where
  length_le : page.records.length ≤ size.toNat
  records_eq : page.records = page.ids.map row
  stored : ∀ id ∈ page.ids, id ∈ ids
  sorted : page.ids.Pairwise fun left right => Table.precedes ascending left right = true

/-- A page that lies entirely past the last record of the page before it, or entirely before its
first record. -/
def Page.Beyond {ρ : Type} [CursorValued ρ] (ascending : Bool) (earlier later : Page ρ) :
    Neighbour → Prop
  | .prev => ∃ head, earlier.ids.head? = some head ∧
      ∀ id ∈ later.ids, Table.precedes ascending id head = true
  | .next => ∃ last, earlier.ids.getLast? = some last ∧
      ∀ id ∈ later.ids, Table.precedes ascending last id = true

section Changes

variable {ρ ε : Type} [CursorValued ρ] {policy : Policy} {first : Query} {ascending : Bool}

theorem Approach.Shows.sound {source : Source Id ρ ε} {row : Int64 → ρ} {ids : List Int64}
    (honours : Honours source row ids) (distinct : ids.Nodup) {approach : Approach} {page : Page ρ}
    (shows : approach.Shows first ascending row ids page) :
    page.Sound first.size ascending row ids where
  length_le := by
    rw [shows.records, List.length_map]
    exact approach.length_shown_le ascending ids first.size.toNat
  records_eq := by rw [shows.ids_eq honours, shows.records]
  stored := by
    intro id member
    rw [shows.ids_eq honours] at member
    exact Approach.mem_candidates (Approach.mem_candidates_of_mem_shown member)
  sorted := by
    rw [shows.ids_eq honours]
    exact approach.shown_sorted distinct ascending first.size.toNat

theorem Approach.Shows.beyond {source source' : Source Id ρ ε} {row row' : Int64 → ρ}
    {ids ids' : List Int64} (honours : Honours source row ids) (honours' : Honours source' row' ids')
    {approach : Approach} {page later : Page ρ}
    (shows : approach.Shows first ascending row ids page) {head last : Int64}
    (headed : (approach.shown ascending ids first.size.toNat).head? = some head)
    (lasts : (approach.shown ascending ids first.size.toNat).getLast? = some last)
    {move : Neighbour}
    (showsLater : (approach.toward head last move).Shows first ascending row' ids' later) :
    Page.Beyond ascending page later move := by
  have laters := showsLater.ids_eq honours'
  cases move with
  | prev =>
      refine ⟨head, by rw [shows.ids_eq honours, headed], fun id member => ?_⟩
      rw [laters] at member
      have ahead := List.mem_reverse.mp (Approach.mem_candidates_of_mem_shown member)
      rw [Table.before_eq_past, Table.mem_past, Table.precedes_not] at ahead
      exact ahead.2
  | next =>
      refine ⟨last, by rw [shows.ids_eq honours, lasts], fun id member => ?_⟩
      rw [laters] at member
      exact (Table.mem_past.mp (Approach.mem_candidates_of_mem_shown member)).2

/-- What a walk that only moves forward keeps: the numbers returned and then those that the latest
table still holds ahead are in strict order, and no number is lost that was in every table. -/
structure Covers (ids : Nat → List Int64) (latest : Nat) (ascending : Bool)
    (returned ahead : List Int64) : Prop where
  sorted : (returned ++ ahead).Pairwise fun left right => Table.precedes ascending left right = true
  kept : ∀ id, (∀ i ≤ latest, id ∈ ids i) → id ∈ returned ++ ahead

theorem Covers.opening {ids : Nat → List Int64} (distinct : (ids 0).Nodup) (size : Nat) :
    Covers ids 0 ascending ((Table.listing (ids 0) ascending).take size)
      ((Table.listing (ids 0) ascending).drop size) where
  sorted := by
    rw [List.take_append_drop]
    exact Table.listing_sorted distinct ascending
  kept := by
    intro id common
    rw [List.take_append_drop]
    exact Table.mem_listing.mpr (common 0 (Nat.le_refl 0))

/-- The next page takes the front of what the next table holds past the last number returned. -/
theorem Covers.following {ids : Nat → List Int64} {latest : Nat} {returned ahead : List Int64}
    (covers : Covers ids latest ascending returned ahead) {last : Int64}
    (lasts : returned.getLast? = some last) (distinct : (ids (latest + 1)).Nodup) (size : Nat) :
    Covers ids (latest + 1) ascending
      (returned ++ (Table.past ascending last (Table.listing (ids (latest + 1)) ascending)).take size)
      ((Table.past ascending last (Table.listing (ids (latest + 1)) ascending)).drop size) where
  sorted := by
    rw [List.append_assoc, List.take_append_drop]
    refine Table.sorted_append (List.pairwise_append.mp covers.sorted).1 lasts ?_ ?_
    · exact (Table.listing_sorted distinct ascending).sublist (Table.past_sublist ascending last _)
    · exact fun id member => (Table.mem_past.mp member).2
  kept := by
    intro id common
    rw [List.append_assoc, List.take_append_drop]
    rcases List.mem_append.mp (covers.kept id fun i bound => common i (Nat.le_succ_of_le bound)) with
      member | member
    · exact List.mem_append_left _ member
    · have later := (List.pairwise_append.mp covers.sorted).2.2 last (List.mem_of_getLast? lasts) id
        member
      have listed : id ∈ Table.listing (ids (latest + 1)) ascending :=
        Table.mem_listing.mpr (common (latest + 1) (Nat.le_refl _))
      exact List.mem_append_right _ (Table.mem_past.mpr ⟨listed, later⟩)

theorem Walk.exists_covers {sources : Nat → Source Id ρ ε} {row : Nat → Int64 → ρ}
    {ids : Nat → List Int64} (tables : Tables sources row ids) (opens : first.Opens ascending)
    {moves : List Neighbour} {pages : List (Page ρ)} {page : Page ρ} {query : Query}
    (walk : Walk (fun i => Paging.answer policy (sources i)) first moves (page :: pages) query)
    (forward : ∀ move ∈ moves, move = .next) :
    ∃ approach : Approach, query = approach.query first ∧
      approach.Shows first ascending (row moves.length) (ids moves.length) page ∧
      (approach.query first).heading ≠ .backward ∧
      Covers ids moves.length ascending (Page.idsOf (page :: pages))
        ((approach.candidates ascending (ids moves.length)).drop first.size.toNat) := by
  induction walk using Walk.stepwise with
  | @first page answered =>
      change Paging.answer policy (sources 0) (Approach.start.query first) = .ok page at answered
      have positive : pageOne ≤ Approach.start.page := UInt32.le_refl pageOne
      have shows := tables.shows opens positive answered
      refine ⟨.start, rfl, shows, Approach.start_forward opens.bare, ?_⟩
      rw [Page.idsOf_cons, shows.ids_eq (tables.honours 0)]
      exact Covers.opening (tables.distinct 0) first.size.toNat
  | @turn moves pages page latest query next move walk leads answered ih =>
      rw [List.forall_mem_cons] at forward
      obtain ⟨rfl, forward⟩ := forward
      obtain ⟨approach, rfl, shows, -, covers⟩ := ih forward
      obtain ⟨head, last, -, lasts, rfl, positive⟩ := shows.leads _ next leads
      have showsNext := tables.shows opens positive answered
      refine ⟨_, rfl, showsNext, Approach.past_forward first _ _, ?_⟩
      rw [Page.idsOf_cons, showsNext.ids_eq (tables.honours _)]
      refine covers.following ?_ (tables.distinct _) first.size.toNat
      rw [Page.idsOf_cons, List.getLast?_append, shows.ids_eq (tables.honours _), lasts,
        Option.some_or]

/-- What holds of all walks from a query while the table may change between two requests. -/
structure SafeWalks (policy : Policy) (sources : Nat → Source Id ρ ε) (row : Nat → Int64 → ρ)
    (ids : Nat → List Int64) (first : Query) (ascending : Bool) : Prop where
  sound : ∀ {moves : List Neighbour} {pages : List (Page ρ)} {page : Page ρ} {query : Query},
    Walk (fun i => Paging.answer policy (sources i)) first moves (page :: pages) query →
      page.Sound first.size ascending (row moves.length) (ids moves.length)
  beyond : ∀ {moves : List Neighbour} {pages : List (Page ρ)} {page later : Page ρ}
    {query next : Query} {move : Neighbour},
    Walk (fun i => Paging.answer policy (sources i)) first moves (page :: pages) query →
      page.beside query move = some next →
      Paging.answer policy (sources (moves.length + 1)) next = .ok later →
      Page.Beyond ascending page later move
  distinct : ∀ {moves : List Neighbour} {pages : List (Page ρ)} {page : Page ρ} {query : Query},
    Walk (fun i => Paging.answer policy (sources i)) first moves (page :: pages) query →
      (∀ move ∈ moves, move = .next) → (Page.idsOf (page :: pages)).Nodup
  complete : ∀ {moves : List Neighbour} {pages : List (Page ρ)} {page : Page ρ} {query : Query},
    Walk (fun i => Paging.answer policy (sources i)) first moves (page :: pages) query →
      (∀ move ∈ moves, move = .next) → page.nextCursor = none →
      ∀ id, (∀ i ≤ moves.length, id ∈ ids i) → (Page.idsOf (page :: pages)).count id = 1

/-- Paging is safe while the table changes, however the end of the table is told. -/
theorem exists_safeWalks {settings : Settings} (reachable : first.Reachable settings)
    (bare : first.heading = .first) (rows : first.demand.wantsRows = true) (policy : Policy)
    {sources : Nat → Source Id ρ ε} {row : Nat → Int64 → ρ} {ids : Nat → List Int64}
    (tables : Tables sources row ids) :
    ∃ ascending, first.ascending = .ok ascending ∧
      SafeWalks policy sources row ids first ascending := by
  obtain ⟨ascending, opens⟩ := reachable.exists_opens bare rows
  refine ⟨ascending, opens.ascends, ?_, ?_, ?_, ?_⟩
  · intro moves pages page query walk
    obtain ⟨approach, -, -, shows⟩ := walk.exists_approach tables opens
    exact shows.sound (tables.honours _) (tables.distinct _)
  · intro moves pages page later query next move walk leads answered
    obtain ⟨approach, rfl, -, shows⟩ := walk.exists_approach tables opens
    obtain ⟨head, last, headed, lasts, rfl, positive⟩ := shows.leads move next leads
    have showsLater := tables.shows opens positive answered
    exact shows.beyond (tables.honours _) (tables.honours _) headed lasts showsLater
  · intro moves pages page query walk forward
    obtain ⟨approach, -, -, -, covers⟩ := walk.exists_covers tables opens forward
    exact Table.nodup_of_sorted (List.pairwise_append.mp covers.sorted).1
  · intro moves pages page query walk forward noNext id common
    obtain ⟨approach, rfl, shows, ahead, covers⟩ := walk.exists_covers tables opens forward
    have kept := covers.kept id common
    have sorted := covers.sorted
    rw [List.drop_eq_nil_of_le (shows.complete noNext ahead), List.append_nil] at kept sorted
    exact List.count_eq_one_of_mem (Table.nodup_of_sorted sorted) kept

end Changes

/-- The row that the first page did not show is gone when the second request comes. -/
theorem exists_safeWalks_of_deleted_row :
    (Query.latest 2 []).Reachable .standard ∧ (Query.latest 2 []).heading = .first ∧
      (Query.latest 2 []).demand.wantsRows = true ∧
      Tables (fun i => (Table.ofIds (if i = 0 then [1, 2, 3] else [2, 3])).source)
        (fun _ => Table.row) (fun i => if i = 0 then [1, 2, 3] else [2, 3]) ∧
      ∃ ascending, (Query.latest 2 []).ascending = .ok ascending ∧
        SafeWalks .standard (fun i => (Table.ofIds (if i = 0 then [1, 2, 3] else [2, 3])).source)
          (fun _ => Table.row) (fun i => if i = 0 then [1, 2, 3] else [2, 3]) (Query.latest 2 [])
          ascending := by
  have reachable := Query.latest_reachable 2 (by decide) (by decide) []
  have tables : Tables (fun i => (Table.ofIds (if i = 0 then [1, 2, 3] else [2, 3])).source)
      (fun _ => Table.row) (fun i => if i = 0 then [1, 2, 3] else [2, 3]) := {
    honours := fun i => Table.honours rfl rfl
    distinct := by
      intro i
      split <;> decide
    few := by
      intro i
      split <;> decide }
  exact ⟨reachable, rfl, rfl, tables, exists_safeWalks reachable rfl rfl .standard tables⟩

end KeysetPaging
