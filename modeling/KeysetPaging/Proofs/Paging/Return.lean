import KeysetPaging.Proofs.Paging.Entry
import KeysetPaging.Proofs.Paging.Walk

/-!
# There and back

A page is a window on the listing, from whichever number and page it was asked for. The page that one
of its cursors leads to borders on the window, and the opposite cursor of that page leads back to the
same window and the same page number, also where the number shown cannot fall below one.
-/

namespace KeysetPaging

def Neighbour.opposite : Neighbour → Neighbour
  | .prev => .next
  | .next => .prev

/-- A move from a page is undone: if it leads to a page with records, that page carries the opposite
cursor, which leads to the same records and page number again. -/
def Page.Returns {ρ ε : Type} (answer : Query → Except (Failure ε) (Page ρ)) (query : Query)
    (page : Page ρ) (move : Neighbour) : Prop :=
  ∀ (next : Query) (later : Page ρ), page.beside query move = some next →
    answer next = .ok later → later.records ≠ [] →
    ∃ (back : Query) (again : Page ρ), later.beside next move.opposite = some back ∧
      answer back = .ok again ∧ again.records = page.records ∧ again.number = page.number

namespace Table

/-- The last numbers of a list are those of its back, if the back is full or there is no front. -/
theorem reverse_take_reverse_append {size : Nat} {front back : List Int64}
    (bounded : back.length ≤ size) (full : back.length < size → front = []) :
    ((front ++ back).reverse.take size).reverse = back := by
  rw [List.reverse_append]
  rcases Nat.lt_or_eq_of_le bounded with short | exact
  · rw [full short, List.reverse_nil, List.append_nil,
      List.take_of_length_le (by rwa [List.length_reverse]), List.reverse_reverse]
  · rw [List.take_left' (by rwa [List.length_reverse]), List.reverse_reverse]

theorem take_append_of_full {size : Nat} {front back : List Int64} (bounded : front.length ≤ size)
    (full : front.length < size → back = []) : (front ++ back).take size = front := by
  rcases Nat.lt_or_eq_of_le bounded with short | exact
  · rw [full short, List.append_nil, List.take_of_length_le bounded]
  · exact List.take_left' exact

theorem drop_eq_nil_of_short {size : Nat} {ids : List Int64} (short : (ids.take size).length < size) :
    ids.drop size = [] := by
  rw [List.length_take] at short
  exact List.drop_eq_nil_of_le (by omega)

end Table

namespace Approach

/-- The place of a page in the listing, with the numbers in front of it and behind it. A page that is
not full ends with the listing, or begins with it if the request heads backward. -/
structure Window (ascending : Bool) (ids : List Int64) (size : Nat) (approach : Approach)
    (front back : List Int64) : Prop where
  whole : Table.listing ids ascending = front ++ (approach.shown ascending ids size ++ back)
  short : (approach.shown ascending ids size).length < size →
    match approach with
    | .before _ _ => front = []
    | _ => back = []
  ahead :
    match approach with
    | .before _ _ => True
    | _ => approach.candidates ascending ids = approach.shown ascending ids size ++ back

section Window

variable {ascending : Bool} {ids : List Int64} {size : Nat} {approach : Approach}
  {front back : List Int64}

theorem exists_window (distinct : ids.Nodup) (ascending : Bool) (size : Nat) (approach : Approach) :
    ∃ front back, approach.Window ascending ids size front back := by
  have sorted := Table.listing_sorted distinct ascending
  cases approach with
  | start =>
      refine ⟨[], (Table.listing ids ascending).drop size, ?_, ?_, ?_⟩
      · exact (List.take_append_drop size _).symm
      · exact Table.drop_eq_nil_of_short
      · exact (List.take_append_drop size _).symm
  | past id page =>
      obtain ⟨front, cut⟩ := Table.exists_append_past sorted id
      refine ⟨front, (Table.past ascending id (Table.listing ids ascending)).drop size, ?_, ?_, ?_⟩
      · rwa [shown, candidates, List.take_append_drop]
      · exact Table.drop_eq_nil_of_short
      · exact (List.take_append_drop size _).symm
  | before id page =>
      obtain ⟨back, cut⟩ := Table.exists_append_before sorted id
      have parts := List.take_append_drop size
        (Table.before ascending id (Table.listing ids ascending)).reverse
      refine ⟨((Table.before ascending id (Table.listing ids ascending)).reverse.drop size).reverse,
        back, ?_, ?_, trivial⟩
      · rwa [shown, candidates, ← List.append_assoc, ← List.reverse_append, parts,
          List.reverse_reverse]
      · intro short
        rw [shown, List.length_reverse] at short
        rw [candidates] at short
        exact congrArg List.reverse (Table.drop_eq_nil_of_short short)

/-- The page before the one behind a page is that page. -/
theorem Window.shown_before (window : approach.Window ascending ids size front back)
    (distinct : ids.Nodup) {last later : Int64} {page page' : UInt32}
    (lasts : (approach.shown ascending ids size).getLast? = some last)
    (headed : ((past last page).shown ascending ids size).head? = some later) :
    (before later page').shown ascending ids size = approach.shown ascending ids size := by
  have sorted := Table.listing_sorted distinct ascending
  have whole := window.whole
  rw [← List.append_assoc] at whole
  have behind : Table.past ascending last (Table.listing ids ascending) = back := by
    rw [whole] at sorted ⊢
    exact Table.past_append sorted (by rw [List.getLast?_append, lasts, Option.some_or])
  rw [shown, candidates, behind, List.head?_take] at headed
  have first : back.head? = some later := by
    split at headed
    · cases headed
    · exact headed
  have ahead : Table.before ascending later (Table.listing ids ascending) =
      front ++ approach.shown ascending ids size := by
    rw [whole] at sorted ⊢
    exact Table.before_append sorted first
  rw [shown, candidates, ahead]
  refine Table.reverse_take_reverse_append (length_shown_le _ _ _ _) fun short => ?_
  have ends := window.short short
  cases approach with
  | start =>
      rw [ends] at first
      cases first
  | past id page =>
      rw [ends] at first
      cases first
  | before id page => exact ends

/-- The page behind the one before a page is that page, and as much lies ahead of both. -/
theorem Window.shown_past (window : approach.Window ascending ids size front back)
    (distinct : ids.Nodup) {head earlier : Int64} {page page' : UInt32}
    (headed : (approach.shown ascending ids size).head? = some head)
    (lasts : ((before head page).shown ascending ids size).getLast? = some earlier) :
    (past earlier page').shown ascending ids size = approach.shown ascending ids size ∧
      (past earlier page').candidates ascending ids = approach.shown ascending ids size ++ back := by
  have sorted := Table.listing_sorted distinct ascending
  have whole := window.whole
  have ahead : Table.before ascending head (Table.listing ids ascending) = front := by
    rw [whole] at sorted ⊢
    exact Table.before_append sorted (by rw [List.head?_append, headed, Option.some_or])
  rw [shown, candidates, ahead, List.getLast?_reverse, List.head?_take] at lasts
  have last : front.getLast? = some earlier := by
    split at lasts
    · cases lasts
    · rwa [List.head?_reverse] at lasts
  have behind : (past earlier page').candidates ascending ids =
      approach.shown ascending ids size ++ back := by
    rw [candidates]
    rw [whole] at sorted ⊢
    exact Table.past_append sorted last
  refine ⟨?_, behind⟩
  rw [shown, behind]
  refine Table.take_append_of_full (length_shown_le _ _ _ _) fun short => ?_
  have ends := window.short short
  cases approach with
  | start => exact ends
  | past id page => exact ends
  | before id page =>
      rw [ends] at last
      cases last

end Window

/-- The page before the one with the next number has the number again. -/
theorem numberBefore_nextNumber {approach : Approach} (positive : pageOne ≤ approach.page)
    (later : pageOne ≤ approach.nextNumber) :
    Page.numberBefore approach.nextNumber = approach.number := by
  cases approach with
  | start => decide
  | past id page =>
      have least := Page.pageOne_le_iff.mp positive
      change 1 ≤ page.toNat at least
      have below : page ≠ 4294967295 := by
        rintro rfl
        exact absurd (Page.pageOne_le_iff.mp later) (Nat.not_succ_le_zero 0)
      have above : ¬page + 1 ≤ pageOne := by
        rw [UInt32.le_iff_toNat_le, Page.toNat_succ below]
        change ¬page.toNat + 1 ≤ 1
        omega
      apply UInt32.toNat.inj
      rw [nextNumber, Page.toNat_numberBefore above, Page.toNat_succ below]
      rfl
  | before id page => rfl

theorem numberBefore_ne_greatest (page : UInt32) : Page.numberBefore page ≠ 4294967295 := by
  intro greatest
  by_cases early : page ≤ pageOne
  · rw [Page.numberBefore, if_pos early] at greatest
    exact absurd greatest (by decide)
  · have number := Page.toNat_numberBefore early
    rw [greatest] at number
    have bound := page.toNat_lt
    change 4294967295 = page.toNat - 1 at number
    omega

section Turn

variable {ρ ε : Type} {ids : List Int64} {first : Query} {ascending : Bool} {approach : Approach}
  {policy : Policy}

/-- The opposite cursor of a page is always there. -/
theorem beside_opposite (bare : first.heading = .first) (approach : Approach)
    (head last head' last' : Int64) (records : List ρ) (total : Int64) (ended : Bool)
    (move : Neighbour) :
    (Page.placed ((approach.toward head last move).query first) records total
      (Page.neighbours ((approach.toward head last move).query first) ended (Table.decimal head')
        (Table.decimal last') (approach.toward head last move).page)).beside
          ((approach.toward head last move).query first) move.opposite =
      some (((approach.toward head last move).toward head' last' move.opposite).query first) := by
  cases move with
  | prev =>
      simp only [Neighbour.opposite, Page.beside, Page.following, Page.placed]
      rw [nextCursor_neighbours bare, if_neg fun stop => stop.1 rfl, Option.map_some,
        following_query]
      rfl
  | next =>
      simp only [Neighbour.opposite, Page.beside, Page.preceding, Page.placed]
      rw [prevCursor_neighbours bare]
      exact congrArg some (preceding_query first _ _)

/-- The opposite cursor leads to the numbers that the first page shows. -/
theorem shown_opposite (distinct : ids.Nodup) {size : Nat} {head last head' last' : Int64}
    (headed : (approach.shown ascending ids size).head? = some head)
    (lasts : (approach.shown ascending ids size).getLast? = some last) {move : Neighbour}
    (headed' : ((approach.toward head last move).shown ascending ids size).head? = some head')
    (lasts' : ((approach.toward head last move).shown ascending ids size).getLast? = some last') :
    ((approach.toward head last move).toward head' last' move.opposite).shown ascending ids size =
      approach.shown ascending ids size := by
  obtain ⟨front, back, window⟩ := exists_window distinct ascending size approach
  cases move with
  | prev => exact (window.shown_past distinct headed lasts').1
  | next => exact window.shown_before distinct lasts headed'

/-- Going back asks for no page number that does not fit. -/
theorem fits_opposite (distinct : ids.Nodup) {head last head' last' : Int64}
    (headed : (approach.shown ascending ids first.size.toNat).head? = some head)
    {move : Neighbour}
    (lasts' : ((approach.toward head last move).shown ascending ids first.size.toNat).getLast? =
      some last')
    (fits : ¬Page.Overflows (approach.query first) (approach.ended policy first.size ascending ids)
      approach.page) :
    ¬Page.Overflows (((approach.toward head last move).toward head' last' move.opposite).query first)
      (((approach.toward head last move).toward head' last' move.opposite).ended policy first.size
        ascending ids)
      ((approach.toward head last move).toward head' last' move.opposite).page := by
  rintro ⟨forward, unended, greatest⟩
  cases move with
  | next => exact forward rfl
  | prev =>
      change approach.number = 4294967295 at greatest
      cases approach with
      | start => exact absurd greatest (by decide)
      | past id page =>
          -- As much lies past the number that the way back starts from, so it ends no earlier.
          obtain ⟨front, back, window⟩ :=
            exists_window distinct ascending first.size.toNat (past id page)
          have same : (past last' page).candidates ascending ids =
              (past id page).candidates ascending ids :=
            (window.shown_past distinct headed lasts').2.trans window.ahead.symm
          refine fits ⟨past_forward first id page, ?_, greatest⟩
          unfold ended at unended ⊢
          rwa [← same]
      | before id page => exact numberBefore_ne_greatest page greatest

theorem number_opposite {head last head' last' : Int64} {move : Neighbour}
    (positive : pageOne ≤ approach.page) (ahead : pageOne ≤ (approach.toward head last move).page) :
    ((approach.toward head last move).toward head' last' move.opposite).number =
      approach.number := by
  cases move with
  | prev => rfl
  | next => exact numberBefore_nextNumber positive ahead

variable [CursorValued ρ] {source : Source Id ρ ε} {row : Int64 → ρ} {page : Page ρ}

/-- A page with records lies between two numbers, and its cursors and number are those beside them. -/
theorem exists_between (honours : Honours source row ids) (distinct : ids.Nodup)
    (opens : first.Opens ascending) (positive : pageOne ≤ approach.page)
    (answered : Paging.answer policy source (approach.query first) = .ok page)
    (rows : page.records ≠ []) :
    ∃ head last total carried,
      (approach.shown ascending ids first.size.toNat).head? = some head ∧
      (approach.shown ascending ids first.size.toNat).getLast? = some last ∧
      ¬Page.Overflows (approach.query first) (approach.ended policy first.size ascending ids)
        approach.page ∧
      Paging.countFor source (approach.query first) = .ok total ∧
      Page.carryTotal total = .ok carried ∧
      page = Page.placed (approach.query first)
        ((approach.shown ascending ids first.size.toNat).map row) carried
        (Page.neighbours (approach.query first) (approach.ended policy first.size ascending ids)
          (Table.decimal head) (Table.decimal last) approach.page) := by
  obtain ⟨total, counted, ⟨-, rfl⟩ | ⟨head, last, carried, headed, lasts, fits, carries, rfl⟩⟩ :=
    (answer_eq_ok_iff honours distinct opens positive).mp answered
  · exact absurd rfl rows
  · exact ⟨head, last, total, carried, headed, lasts, fits, counted, carries, rfl⟩

/-- Every move from the page of an approach is undone. -/
theorem returns_of_answer (honours : Honours source row ids) (distinct : ids.Nodup)
    (few : ids.length < 4294967296) {counted : Except ε (Option UInt64)}
    (counts : ∀ query, source.count query = counted) (opens : first.Opens ascending)
    (positive : pageOne ≤ approach.page)
    (answered : Paging.answer policy source (approach.query first) = .ok page) (move : Neighbour) :
    Page.Returns (Paging.answer policy source) (approach.query first) page move := by
  intro next later leads followed rows
  have shows := shows_of_answer honours distinct few opens positive answered
  obtain ⟨head, last, headed, lasts, rfl, ahead⟩ := shows.leads move next leads
  -- A page with a cursor is not empty, so it lies between two numbers, as the later page does.
  have own : page.records ≠ [] := by
    rw [shows.records]
    rintro empty
    rw [List.map_eq_nil_iff.mp empty] at headed
    cases headed
  obtain ⟨_, _, _, _, -, -, fits, -, -, rfl⟩ :=
    exists_between honours distinct opens positive answered own
  obtain ⟨head', last', total, carried, headed', lasts', -, counted', carries, rfl⟩ :=
    exists_between honours distinct opens ahead followed rows
  have shown := shown_opposite distinct headed lasts headed' lasts'
  have returned : pageOne ≤
      ((approach.toward head last move).toward head' last' move.opposite).page := by
    cases move with
    | prev => exact positive_number positive
    | next => exact ahead
  have demands : (((approach.toward head last move).toward head' last' move.opposite).query
      first).demand = ((approach.toward head last move).query first).demand := by
    rw [demand_query, demand_query]
  refine ⟨_, _, beside_opposite opens.bare approach head last head' last' _ _ _ move,
    (answer_eq_ok_iff honours distinct opens returned).mpr
      ⟨total, (Paging.countFor_congr counts demands).trans counted', Or.inr
        ⟨head, last, carried, by rw [shown, headed], by rw [shown, lasts],
          fits_opposite distinct headed lasts' fits, carries, rfl⟩⟩, ?_, ?_⟩
  · change List.map row _ = List.map row _
    rw [shown]
  · change Page.Place.number _ = Page.Place.number _
    rw [number_neighbours opens.bare, number_neighbours opens.bare,
      number_opposite positive ahead]

end Turn

/-- A request that starts where an approach does leads where the approach does. -/
theorem Enters.beside_eq {ρ : Type} {first query : Query} {approach : Approach}
    (enters : approach.Enters first query) (page : Page ρ) (move : Neighbour) :
    page.beside query move = page.beside (approach.query first) move := by
  have preceding : query.preceding = (approach.query first).preceding :=
    funext fun token => (enters.preceding_eq token).trans (preceding_query first approach token).symm
  have following : query.following = (approach.query first).following :=
    funext fun token => (enters.following_eq token).trans (following_query first approach token).symm
  cases move with
  | prev => exact congrArg page.prevCursor.map preceding
  | next => exact congrArg page.nextCursor.map following

end Approach

/-- From any entry point, next and prev undo each other: a request without a cursor, or with one that
verifies to any number and any page, comes to a page from which every move is undone. -/
theorem Query.Reachable.returns {ρ ε : Type} [CursorValued ρ] {settings : Settings} {query : Query}
    (reachable : query.Reachable settings) (rows : query.demand.wantsRows = true)
    {found : Option Position} (anchored : query.anchor.outcome = .ok found)
    (numeric : ∀ position, found = some position → ∃ id, position.number = .ok id)
    {source : Source Id ρ ε} {row : Int64 → ρ} {ids : List Int64}
    (honours : Honours source row ids) (distinct : ids.Nodup) (few : ids.length < 4294967296)
    {counted : Except ε (Option UInt64)} (counts : ∀ query, source.count query = counted)
    {policy : Policy} {page : Page ρ} (answered : Paging.answer policy source query = .ok page)
    (move : Neighbour) : Page.Returns (Paging.answer policy source) query page move := by
  obtain ⟨approach, positive, enters⟩ :=
    Approach.exists_enters reachable.wellFormed anchored numeric
  obtain ⟨ascending, opens⟩ := reachable.fromStart.exists_opens rfl rows
  have entered := (enters.answer_iff honours counts opens positive).mp answered
  have returns := Approach.returns_of_answer honours distinct few counts opens positive entered move
  intro next later leads
  rw [enters.beside_eq] at leads
  exact returns next later leads

/-- The request backward from a number that no row has, with the first page's number. -/
theorem Query.Reachable.returns_of_missing_row :
    ((Approach.before 4 1).query (Query.latest 2 [])).Reachable .standard ∧
      ((Approach.before 4 1).query (Query.latest 2 [])).demand.wantsRows = true ∧
      ((Approach.before 4 1).query (Query.latest 2 [])).anchor.outcome =
        .ok (some ⟨Table.decimal 4, 1⟩) ∧
      (∀ position : Position, some ⟨Table.decimal 4, 1⟩ = some position →
        ∃ id, position.number = .ok id) ∧
      Honours (Table.ofIds [1, 2, 3, 5, 6]).source Table.row [1, 2, 3, 5, 6] ∧
      [(1 : Int64), 2, 3, 5, 6].Nodup ∧ [(1 : Int64), 2, 3, 5, 6].length < 4294967296 ∧
      (∀ query, (Table.ofIds [1, 2, 3, 5, 6]).source.count query = .ok (some 5)) ∧
      ∃ page, Paging.answer .standard (Table.ofIds [1, 2, 3, 5, 6]).source
          ((Approach.before 4 1).query (Query.latest 2 [])) = .ok page ∧
        page.records = [6, 5].map Table.row ∧ page.number = 1 ∧ page.hasNext = true ∧
        ∀ move, Page.Returns (Paging.answer .standard (Table.ofIds [1, 2, 3, 5, 6]).source)
          ((Approach.before 4 1).query (Query.latest 2 [])) page move := by
  have positive : pageOne ≤ (Approach.before 4 1).page := UInt32.le_refl 1
  have reachable : ((Approach.before 4 1).query (Query.latest 2 [])).Reachable .standard :=
    .preceding _ (Query.latest_reachable 2 (by decide) (by decide) [])
  have anchored : ((Approach.before 4 1).query (Query.latest 2 [])).anchor.outcome =
      .ok (some ⟨Table.decimal 4, 1⟩) := Approach.anchor_query rfl positive
  have numeric : ∀ position : Position, some ⟨Table.decimal 4, 1⟩ = some position →
      ∃ id, position.number = .ok id := by
    rintro position ⟨⟩
    exact ⟨4, Table.number_decimal 4 1⟩
  have honours : Honours (Table.ofIds [1, 2, 3, 5, 6]).source Table.row [1, 2, 3, 5, 6] :=
    Table.honours rfl rfl
  have distinct : [(1 : Int64), 2, 3, 5, 6].Nodup := by decide
  have few : [(1 : Int64), 2, 3, 5, 6].length < 4294967296 := by decide
  have counts : ∀ query, (Table.ofIds [1, 2, 3, 5, 6]).source.count query = .ok (some 5) :=
    fun _ => rfl
  have opens : (Query.latest 2 []).Opens false := ⟨rfl, rfl, by decide, rfl⟩
  have shown : (Approach.before 4 1).shown false [1, 2, 3, 5, 6] (2 : UInt32).toNat = [6, 5] := by
    decide
  obtain ⟨page, answered, records, number, next⟩ : ∃ page,
      Paging.answer .standard (Table.ofIds [1, 2, 3, 5, 6]).source
        ((Approach.before 4 1).query (Query.latest 2 [])) = .ok page ∧
      page.records = [6, 5].map Table.row ∧ page.number = 1 ∧ page.hasNext = true :=
    ⟨_, (Approach.answer_eq_ok_iff honours distinct opens positive).mpr
      ⟨none, rfl, Or.inr ⟨6, 5, uncounted, congrArg List.head? shown, congrArg List.getLast? shown,
        fun beyond => beyond.1 rfl, rfl, rfl⟩⟩,
      congrArg (List.map Table.row) shown, rfl, rfl⟩
  exact ⟨reachable, rfl, anchored, numeric, honours, distinct, few, counts, page, answered, records,
    number, next,
    Query.Reachable.returns reachable rfl anchored numeric honours distinct few counts answered⟩

end KeysetPaging
