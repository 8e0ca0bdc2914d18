import KeysetPaging.Proofs.Paging.Blame
import KeysetPaging.Proofs.Paging.Walk

/-!
# Page numbers over any source

A walk counts its pages whatever the source hands out: a move to the next page raises the number by
one and a move back lowers it by one. The cursors of a page are the tokens of its first value with its
own number and of its last value with the number behind it, so they do not tell from which side the
page was reached. A cursor of the page that fits is never the reason why a request fails.
-/

namespace KeysetPaging

variable {ρ ε : Type} [CursorValued ρ]

/-- A page whose cursors, if it has them, are the tokens of its end values with its own number and
with the next one. -/
structure Page.Numbered (first : Query) (page : Page ρ) : Prop where
  positive : 1 ≤ page.number.toNat
  prev_eq : ∀ token, page.prevCursor = some token → 2 ≤ page.number.toNat ∧
    first.tokenFor (page.first?.bind cursorValue) page.number = .ok token
  next_eq : ∀ token, page.nextCursor = some token → page.number.toNat + 1 < 4294967296 ∧
    first.tokenFor (page.last?.bind cursorValue) (page.number + 1) = .ok token

/-- The tokens of its end values make a page numbered. -/
theorem Page.numbered_placed {first query : Query} {records : List ρ} {head last : String}
    (headed : records.head?.bind cursorValue = some head)
    (lasts : records.getLast?.bind cursorValue = some last) {place : Page.Place}
    (positive : 1 ≤ place.number.toNat)
    (prev : ∀ token, place.prevCursor = some token →
      2 ≤ place.number.toNat ∧ token = first.mark head place.number)
    (next : ∀ token, place.nextCursor = some token →
      place.number.toNat + 1 < 4294967296 ∧ token = first.mark last (place.number + 1))
    {total : Int64} : (Page.placed query records total place).Numbered first where
  positive := positive
  prev_eq := by
    intro token found
    obtain ⟨later, rfl⟩ := prev token found
    refine ⟨later, ?_⟩
    change first.tokenFor (records.head?.bind cursorValue) place.number = _
    rw [headed]
    exact Query.tokenFor_some (Page.pageOne_le_iff.mpr positive) first head
  next_eq := by
    intro token found
    obtain ⟨fits, rfl⟩ := next token found
    refine ⟨fits, ?_⟩
    change first.tokenFor (records.getLast?.bind cursorValue) (place.number + 1) = _
    rw [lasts]
    exact Query.tokenFor_some (Page.pageOne_le_succ (Page.ne_greatest_of_lt fits)) first last

/-- Whether a move leads from one page number to another. -/
def Neighbour.Counts : Neighbour → UInt32 → UInt32 → Prop
  | .prev, page, other => other.toNat + 1 = page.toNat
  | .next, page, other => other.toNat = page.toNat + 1

namespace Query

/-- The requests of a walk, with the number that each counts from and the number of the page that it
asks for: the request for the first page, and those from a token with a later number. -/
inductive AsksFor (first : Query) : Query → UInt32 → UInt32 → Prop where
  | start : AsksFor first first pageOne pageOne
  | past {value : String} {page : UInt32} (later : 2 ≤ page.toNat) :
      AsksFor first (first.following (first.mark value page)) page page
  | before {value : String} {page number : UInt32} (positive : 1 ≤ number.toNat)
      (behind : page.toNat = number.toNat + 1) :
      AsksFor first (first.preceding (first.mark value page)) page number

namespace AsksFor

variable {first query : Query} {current number : UInt32}

theorem size_eq (asks : first.AsksFor query current number) : query.size = first.size := by
  cases asks <;> rfl

theorem positive (asks : first.AsksFor query current number) : pageOne ≤ current := by
  rw [Page.pageOne_le_iff]
  cases asks with
  | start => exact Nat.le_refl 1
  | past later => exact Nat.le_of_succ_le later
  | before positive behind => omega

theorem reachable {settings : Settings} (asks : first.AsksFor query current number)
    (opening : first.Reachable settings) : query.Reachable settings := by
  cases asks with
  | start => exact opening
  | past later => exact .following _ opening
  | before positive behind => exact .preceding _ opening

/-- The cursor of a request marks the number that the request counts from. -/
theorem exists_mark (asks : first.AsksFor query current number) {token : String}
    (bare : first.heading = .first) (cursor : query.cursor? = some token) :
    ∃ value, token = first.mark value current ∧ query.shape = first.shape := by
  cases asks with
  | start =>
      rw [heading_eq_first_iff.mp bare] at cursor
      cases cursor
  | past later => exact ⟨_, (Option.some.inj cursor).symm, rfl⟩
  | before positive behind => exact ⟨_, (Option.some.inj cursor).symm, rfl⟩

theorem currentPage_eq (asks : first.AsksFor query current number) (bare : first.heading = .first)
    {policy : Policy} {seek : Seek} (sought : (Seek.ofQuery policy query).outcome = .ok seek) :
    seek.currentPage = current := by
  obtain ⟨found, ascending, anchored, -, rfl⟩ := Seek.ofQuery_eq_ok_iff.mp sought
  change found.elim pageOne Position.page = current
  cases cursor : query.cursor? with
  | none =>
      rw [anchor_of_first (heading_eq_first_iff.mpr cursor)] at anchored
      cases anchored
      cases asks with
      | start => rfl
      | past later => cases cursor
      | before positive behind => cases cursor
  | some token =>
      obtain ⟨position, accepted, rfl⟩ := (anchor_eq_ok_iff cursor).mp anchored
      obtain ⟨value, rfl, shape⟩ := asks.exists_mark bare cursor
      rw [eq_of_resolve_mark shape asks.positive accepted]
      rfl

/-- Which numbers a request counts from and asks for, by where it heads. -/
theorem heading_cases (asks : first.AsksFor query current number) (bare : first.heading = .first) :
    (query.heading = .first ∧ current = pageOne ∧ number = pageOne) ∨
      (query.heading = .forward ∧ 2 ≤ current.toNat ∧ number = current) ∨
      (query.heading = .backward ∧ 1 ≤ number.toNat ∧ current.toNat = number.toNat + 1) := by
  cases asks with
  | start => exact Or.inl ⟨bare, rfl, rfl⟩
  | past later => exact Or.inr (Or.inl ⟨heading_following _ _, later, rfl⟩)
  | before positive behind => exact Or.inr (Or.inr ⟨heading_preceding _ _, positive, behind⟩)

theorem number_pos (asks : first.AsksFor query current number) (bare : first.heading = .first) :
    1 ≤ number.toNat := by
  rcases asks.heading_cases bare with ⟨-, -, rfl⟩ | ⟨-, later, rfl⟩ | ⟨-, positive, -⟩
  · exact Nat.le_refl 1
  · exact Nat.le_of_succ_le later
  · exact positive

theorem number_eq_of_forward (asks : first.AsksFor query current number)
    (bare : first.heading = .first) (forward : query.heading = .forward) : number = current := by
  rcases asks.heading_cases bare with ⟨heads, -⟩ | ⟨-, -, same⟩ | ⟨heads, -⟩
  · rw [forward] at heads
    cases heads
  · exact same
  · rw [forward] at heads
    cases heads

theorem mark_eq (asks : first.AsksFor query current number) (value : String) (page : UInt32) :
    query.mark value page = first.mark value page := by
  have shape : query.shape = first.shape := by
    cases asks <;> rfl
  rw [mark, mark, shape]

/-- The place of a page has the number that the request asks for, and its cursors are the tokens of
the end values with that number and the next one. -/
theorem neighbours_eq (asks : first.AsksFor query current number) (bare : first.heading = .first)
    {ended : Bool} (fits : ¬Page.Overflows query ended current) (head last : String) :
    (Page.neighbours query ended head last current).number = number ∧
      (∀ token, (Page.neighbours query ended head last current).prevCursor = some token →
        2 ≤ number.toNat ∧ token = first.mark head number) ∧
      ∀ token, (Page.neighbours query ended head last current).nextCursor = some token →
        number.toNat + 1 < 4294967296 ∧ token = first.mark last (number + 1) := by
  have ahead : query.heading ≠ .backward → ∀ token,
      (if ended then none else some (first.mark last (current + 1))) = some token →
      current.toNat + 1 < 4294967296 ∧ token = first.mark last (current + 1) := by
    intro forward token found
    cases ended with
    | true => cases found
    | false =>
        have apart : current ≠ 4294967295 := fun greatest => fits ⟨forward, rfl, greatest⟩
        rw [← Page.toNat_succ apart]
        exact ⟨(current + 1).toNat_lt, (Option.some.inj found).symm⟩
  unfold Page.neighbours
  simp only [asks.mark_eq]
  rcases asks.heading_cases bare with ⟨heads, rfl, rfl⟩ | ⟨heads, later, rfl⟩ | ⟨heads, positive, behind⟩
  · rw [heads] at ahead ⊢
    exact ⟨rfl, nofun, ahead nofun⟩
  · rw [heads] at ahead ⊢
    refine ⟨rfl, ?_, ahead nofun⟩
    intro token found
    exact ⟨later, (Option.some.inj found).symm⟩
  -- Backward the cursor counts from the page behind the one shown, so it is the next cursor again.
  · have bound := current.toNat_lt
    have shown := Page.numberBefore_eq positive behind
    rw [heads, shown]
    refine ⟨rfl, ?_, ?_⟩
    · intro token found
      dsimp only at found
      split at found
      · cases found
      · rename_i later
        simp only [Bool.or_eq_true, decide_eq_true_eq, not_or, UInt32.le_iff_toNat_le] at later
        exact ⟨Nat.lt_of_not_le later.2, (Option.some.inj found).symm⟩
    · intro token found
      rw [← behind, ← Page.eq_succ behind]
      exact ⟨bound, (Option.some.inj found).symm⟩

/-- A page that answers a request is numbered, and if it holds records its number is the one that the
request asks for. -/
theorem numbered_of_answer (asks : first.AsksFor query current number) (bare : first.heading = .first)
    (sized : 0 < first.size) {policy : Policy} {source : Source Id ρ ε} (valued : source.Valued)
    {page : Page ρ} (answered : Paging.answer policy source query = .ok page) :
    page.Numbered first ∧ (page.records ≠ [] → page.number = number) := by
  have nothing : ∀ total, (Page.bare query total : Page ρ).Numbered first ∧
      ((Page.bare query total : Page ρ).records ≠ [] → pageOne = number) := fun total =>
    ⟨⟨Nat.le_refl 1, nofun, nofun⟩, fun nonempty => absurd rfl nonempty⟩
  cases Paging.answer_eq_iff.mp answered with
  | rowless sought counted rowless => exact nothing _
  | composed sought counted rows fetched composed =>
      rw [asks.currentPage_eq bare sought] at composed
      rw [← asks.size_eq] at sized
      rcases (valued _ _ _ fetched).bare_or_placed sized asks.positive composed with
        rfl | ⟨head, last, carried, headed, lasts, fits, rfl⟩
      · exact nothing _
      · obtain ⟨shown, prev, next⟩ := asks.neighbours_eq bare fits head last
        refine ⟨Page.numbered_placed headed lasts ?_ ?_ ?_, fun _ => shown⟩
        · rw [shown]
          exact asks.number_pos bare
        · rwa [shown]
        · rwa [shown]

/-- A numbered page leads to a request for the number before or behind its own. -/
theorem exists_next (asks : first.AsksFor query current number) {page : Page ρ}
    (numbered : page.Numbered first) {move : Neighbour} {next : Query}
    (leads : page.beside query move = some next) :
    ∃ current' number', first.AsksFor next current' number' ∧ move.Counts page.number number' := by
  cases move with
  | prev =>
      obtain ⟨token, found, rfl⟩ := Option.map_eq_some_iff.mp leads
      obtain ⟨later, made⟩ := numbered.prev_eq token found
      obtain ⟨value, -, rfl⟩ := eq_mark_of_tokenFor made
      have positive : (1 : UInt32) ≤ page.number :=
        UInt32.le_iff_toNat_le.mpr (Nat.le_of_succ_le later)
      have behind : page.number.toNat = (page.number - 1).toNat + 1 := by
        rw [UInt32.toNat_sub_of_le _ _ positive, UInt32.toNat_one]
        omega
      have start : query.preceding (first.mark value page.number) =
          first.preceding (first.mark value page.number) := by
        cases asks <;> rfl
      rw [start]
      exact ⟨_, _, .before (by omega) behind, behind.symm⟩
  | next =>
      obtain ⟨token, found, rfl⟩ := Option.map_eq_some_iff.mp leads
      obtain ⟨fits, made⟩ := numbered.next_eq token found
      obtain ⟨value, -, rfl⟩ := eq_mark_of_tokenFor made
      have behind : (page.number + 1).toNat = page.number.toNat + 1 :=
        Page.toNat_succ (Page.ne_greatest_of_lt fits)
      have start : query.following (first.mark value (page.number + 1)) =
          first.following (first.mark value (page.number + 1)) := by
        cases asks <;> rfl
      have positive := numbered.positive
      rw [start]
      exact ⟨_, _, .past (by omega), behind⟩

/-- Why a request whose cursor fits can still fail. -/
theorem failure_cases (asks : first.AsksFor query current number) (bare : first.heading = .first)
    {settings : Settings} (opening : first.Reachable settings)
    (fits : ∀ token, query.cursor? = some token → token.utf8ByteSize ≤ tokenLimit)
    {policy : Policy} {source : Source Id ρ ε} (valued : source.Valued) {failure : Failure ε}
    (failed : Paging.answer policy source query = .error failure) :
    (∃ fault, failure = .source fault) ∨
      (query.Overcounts policy source ∧ failure = .cursor (.internal .totalOverflow)) ∨
      (query.heading = .forward ∧ current = 4294967295 ∧
        failure = .cursor (.internal .pageOverflow)) := by
  have fails := ((asks.reachable opening).answer_eq_error_iff valued).mp failed
  cases failure with
  | source fault => exact Or.inl ⟨fault, rfl⟩
  | cursor fault =>
      rcases fails with ⟨token, cursor, rejected⟩ | ⟨oversteps, rfl⟩ | ⟨overcounts, -, rfl⟩
      · obtain ⟨value, rfl, shape⟩ := asks.exists_mark bare cursor
        rw [resolve_mark shape asks.positive (fits _ cursor)] at rejected
        cases rejected
      · obtain ⟨token, value, cursor, accepted⟩ := oversteps.marked
        obtain ⟨_, rfl, shape⟩ := asks.exists_mark bare cursor
        have same := eq_of_resolve_mark shape asks.positive accepted
        exact Or.inr (Or.inr ⟨oversteps.forward, (congrArg Position.page same).symm, rfl⟩)
      · exact Or.inr (Or.inl ⟨overcounts, rfl⟩)

end AsksFor

end Query

/-- Every page of a walk is numbered, and its number, if it holds records, is the one that the request
for it asks for. -/
theorem Walk.exists_asksFor {policy : Policy} {sources : Nat → Source Id ρ ε}
    (valued : ∀ i, (sources i).Valued) {first : Query} (bare : first.heading = .first)
    (sized : 0 < first.size) {moves : List Neighbour} {pages : List (Page ρ)} {page : Page ρ}
    {query : Query}
    (walk : Walk (fun i => Paging.answer policy (sources i)) first moves (page :: pages) query) :
    ∃ current number, first.AsksFor query current number ∧ page.Numbered first ∧
      (page.records ≠ [] → page.number = number) := by
  -- That the page before is numbered carries the induction, whether or not it holds records.
  induction walk using Walk.stepwise with
  | first answered =>
      exact ⟨_, _, .start, Query.AsksFor.start.numbered_of_answer bare sized (valued 0) answered⟩
  | @turn moves pages page latest query next move walk leads answered ih =>
      obtain ⟨current, number, asks, numbered, -⟩ := ih
      obtain ⟨current', number', asks', -⟩ := asks.exists_next numbered leads
      exact ⟨current', number', asks', asks'.numbered_of_answer bare sized (valued _) answered⟩

/-- Tokens of numbered pages agree where the numbers and the values do. -/
theorem Page.Numbered.prev_agree {first : Query} {page other : Page ρ} {token token' : String}
    (numbered : page.Numbered first) (numbered' : other.Numbered first)
    (number : page.number = other.number)
    (value : page.first?.bind cursorValue = other.first?.bind cursorValue)
    (found : page.prevCursor = some token) (found' : other.prevCursor = some token') :
    token = token' := by
  have made := (numbered.prev_eq token found).2
  rw [number, value, (numbered'.prev_eq token' found').2] at made
  exact (Except.ok.inj made).symm

theorem Page.Numbered.next_agree {first : Query} {page other : Page ρ} {token token' : String}
    (numbered : page.Numbered first) (numbered' : other.Numbered first)
    (number : page.number = other.number)
    (value : page.last?.bind cursorValue = other.last?.bind cursorValue)
    (found : page.nextCursor = some token) (found' : other.nextCursor = some token') :
    token = token' := by
  have made := (numbered.next_eq token found).2
  rw [number, value, (numbered'.next_eq token' found').2] at made
  exact (Except.ok.inj made).symm

/-- The walks over sources that promise nothing about the rows they hand out: how their pages are
numbered, that the tokens of a page do not depend on the way to it, and why a walk cannot go on. -/
structure NumberedWalks (policy : Policy) (sources : Nat → Source Id ρ ε) (first : Query) :
    Prop where
  numbered : ∀ {moves : List Neighbour} {pages : List (Page ρ)} {page : Page ρ} {query : Query},
    Walk (fun i => Paging.answer policy (sources i)) first moves (page :: pages) query →
      page.Numbered first
  opens : ∀ {page : Page ρ}, Paging.answer policy (sources 0) first = .ok page →
    page.records ≠ [] → page.number = 1
  counts : ∀ {moves : List Neighbour} {pages : List (Page ρ)} {page later : Page ρ}
    {query next : Query} {move : Neighbour},
    Walk (fun i => Paging.answer policy (sources i)) first moves (page :: pages) query →
      page.beside query move = some next →
      Paging.answer policy (sources (moves.length + 1)) next = .ok later →
      later.records ≠ [] → move.Counts page.number later.number
  agree : ∀ {moves moves' : List Neighbour} {pages pages' : List (Page ρ)} {page other : Page ρ}
    {query query' : Query} {token token' : String},
    Walk (fun i => Paging.answer policy (sources i)) first moves (page :: pages) query →
      Walk (fun i => Paging.answer policy (sources i)) first moves' (other :: pages') query' →
      page.number = other.number →
      (page.first?.bind cursorValue = other.first?.bind cursorValue →
        page.prevCursor = some token → other.prevCursor = some token' → token = token') ∧
      (page.last?.bind cursorValue = other.last?.bind cursorValue →
        page.nextCursor = some token → other.nextCursor = some token' → token = token')
  stops : ∀ {moves : List Neighbour} {pages : List (Page ρ)} {page : Page ρ} {query next : Query}
    {move : Neighbour} {failure : Failure ε},
    Walk (fun i => Paging.answer policy (sources i)) first moves (page :: pages) query →
      page.beside query move = some next →
      (∀ token, next.cursor? = some token → token.utf8ByteSize ≤ 8192) →
      Paging.answer policy (sources (moves.length + 1)) next = .error failure →
      (∃ fault, failure = .source fault) ∨
        (next.Overcounts policy (sources (moves.length + 1)) ∧
          failure = .cursor (.internal .totalOverflow)) ∨
        (move = .next ∧ page.number.toNat = 4294967294 ∧
          failure = .cursor (.internal .pageOverflow))

/-- Pages are numbered along every walk, whatever batches of rows with values the sources hand out. -/
theorem Query.Reachable.numberedWalks {settings : Settings} {first : Query}
    (reachable : first.Reachable settings) (bare : first.heading = .first) (policy : Policy)
    {sources : Nat → Source Id ρ ε} (valued : ∀ i, (sources i).Valued) :
    NumberedWalks policy sources first := by
  have sized := reachable.wellFormed.size_pos
  refine ⟨?_, ?_, ?_, ?_, ?_⟩
  · intro moves pages page query walk
    obtain ⟨_, _, -, numbered, -⟩ := walk.exists_asksFor valued bare sized
    exact numbered
  · intro page answered
    exact (Query.AsksFor.start.numbered_of_answer bare sized (valued 0) answered).2
  · intro moves pages page later query next move walk leads answered nonempty
    obtain ⟨_, _, asks, numbered, -⟩ := walk.exists_asksFor valued bare sized
    obtain ⟨_, number, asks', counts⟩ := asks.exists_next numbered leads
    rwa [(asks'.numbered_of_answer bare sized (valued _) answered).2 nonempty]
  · intro moves moves' pages pages' page other query query' token token' walk walk' number
    obtain ⟨_, _, -, numbered, -⟩ := walk.exists_asksFor valued bare sized
    obtain ⟨_, _, -, numbered', -⟩ := walk'.exists_asksFor valued bare sized
    exact ⟨numbered.prev_agree numbered' number, numbered.next_agree numbered' number⟩
  · intro moves pages page query next move failure walk leads fits failed
    obtain ⟨_, _, asks, numbered, -⟩ := walk.exists_asksFor valued bare sized
    obtain ⟨current, number, asks', counts⟩ := asks.exists_next numbered leads
    rcases asks'.failure_cases bare reachable fits (valued _) failed with
      source | overcounted | ⟨forward, rfl, rfl⟩
    · exact Or.inl source
    · exact Or.inr (Or.inl overcounted)
    · refine Or.inr (Or.inr ?_)
      cases move with
      | prev =>
          obtain ⟨token, -, rfl⟩ := Option.map_eq_some_iff.mp leads
          rw [Query.heading_preceding] at forward
          cases forward
      | next =>
          obtain rfl := asks'.number_eq_of_forward bare forward
          have behind : (4294967295 : UInt32).toNat = page.number.toNat + 1 := counts
          exact ⟨rfl, (Nat.succ.inj behind).symm, rfl⟩

/-- The table that hands out one batch of values whatever it is asked, and cannot count. -/
def Table.handing (values : List String) : Table where
  ids := []
  canned := some (values.map some)
  countRule := .unknown
  offline := false

theorem Table.valued_handing (values : List String) : (Table.handing values).source.Valued := by
  rintro query seek batch ⟨⟩ record member
  obtain ⟨value, -, rfl⟩ := List.mem_map.mp member
  exact ⟨value, rfl⟩

theorem Table.answer_handing {policy : Policy} {query : Query} {seek : Seek}
    (sought : (Seek.ofQuery policy query).outcome = .ok seek) (rows : query.demand = .rows)
    {values : List String} (found : values ≠ []) {head last : String}
    (headed : (Page.arrange query (values.map some)).head?.bind cursorValue = some head)
    (lasts : (Page.arrange query (values.map some)).getLast?.bind cursorValue = some last)
    (fits : seek.currentPage ≠ 4294967295) :
    Paging.answer policy (Table.handing values).source query =
      .ok (Page.placed query (Page.arrange query (values.map some)) uncounted
        (Page.neighbours query (policy.endTest.reached (values.map some).length query.size.toNat)
          head last seek.currentPage)) := by
  have uncounting : Paging.countFor (Table.handing values).source query = .ok none := by
    rw [Paging.countFor, rows]
    rfl
  have wanted : query.demand.wantsRows = true := by
    rw [rows]
    rfl
  refine Paging.answer_eq_iff.mpr (.composed sought uncounting wanted rfl ?_)
  rw [Page.composeAt_of_ne_nil (mt List.map_eq_nil_iff.mp found)]
  exact (Page.composeRows_eq_ok_iff (Seek.positive_currentPage sought) headed lasts).mpr
    ⟨fun beyond => fits beyond.2.2, uncounted, rfl, rfl⟩

/-- Two batches that have nothing to do with each other, in no order, and a move to the next page. -/
theorem Query.Reachable.numberedWalks_of_handing :
    (Query.latest 2 []).Reachable .standard ∧ (Query.latest 2 []).heading = .first ∧
      (∀ i, (Table.handing (if i = 0 then ["b", "c", "a"] else ["#@", "b", "", "c"])).source.Valued) ∧
      NumberedWalks .standard
        (fun i => (Table.handing (if i = 0 then ["b", "c", "a"] else ["#@", "b", "", "c"])).source)
        (Query.latest 2 []) ∧
      ∃ page later next, Walk (fun i => Paging.answer .standard
          (Table.handing (if i = 0 then ["b", "c", "a"] else ["#@", "b", "", "c"])).source)
        (Query.latest 2 []) [.next] [later, page] next ∧ later.number = 2 ∧
        later.prevCursor = some ((Query.latest 2 []).mark "#@" 2) ∧
        later.nextCursor = some ((Query.latest 2 []).mark "b" 3) := by
  have reachable : (Query.latest 2 []).Reachable .standard :=
    Query.latest_reachable 2 (by decide) (by decide) []
  have valued : ∀ i : Nat, (Table.handing
      (if i = 0 then ["b", "c", "a"] else ["#@", "b", "", "c"])).source.Valued :=
    fun i => Table.valued_handing _
  refine ⟨reachable, rfl, valued, reachable.numberedWalks rfl .standard valued, ?_⟩
  have begins : Paging.answer .standard (Table.handing ["b", "c", "a"]).source (Query.latest 2 []) =
      .ok (Page.placed (Query.latest 2 []) [some "b", some "c"] uncounted
        ⟨none, some ((Query.latest 2 []).mark "c" 2), 1⟩) := by
    have sought : (Seek.ofQuery .standard (Query.latest 2 [])).outcome = _ :=
      Seek.ofQuery_eq_ok_iff.mpr ⟨none, false, Query.anchor_of_first rfl, rfl, rfl⟩
    exact Table.answer_handing sought rfl (List.cons_ne_nil _ _) rfl rfl (by decide)
  have continues : Paging.answer .standard (Table.handing ["#@", "b", "", "c"]).source
      ((Query.latest 2 []).following ((Query.latest 2 []).mark "c" 2)) =
      .ok (Page.placed ((Query.latest 2 []).following ((Query.latest 2 []).mark "c" 2))
        [some "#@", some "b"] uncounted
        ⟨some ((Query.latest 2 []).mark "#@" 2), some ((Query.latest 2 []).mark "b" 3), 2⟩) := by
    have positive : pageOne ≤ (2 : UInt32) := by decide
    have fits : ((Query.latest 2 []).mark "c" 2).utf8ByteSize ≤ tokenLimit :=
      (Query.mark_fits_iff (Query.latest 2 []) ⟨"c", 2⟩).mpr (by decide)
    have marks : (((Query.latest 2 []).following ((Query.latest 2 []).mark "c" 2)).resolve
        ((Query.latest 2 []).mark "c" 2)).outcome = .ok ⟨"c", 2⟩ :=
      congrArg Traced.outcome (Query.resolve_mark (Query.shape_following _ _) positive fits)
    have ascends : ((Query.latest 2 []).following ((Query.latest 2 []).mark "c" 2)).ascending =
      .ok false := rfl
    have sought := Query.seek_of_resolve rfl ascends marks .standard
    exact Table.answer_handing sought rfl (List.cons_ne_nil _ _) rfl rfl (by decide)
  exact ⟨_, _, _, .turn (.first begins) rfl continues, rfl, rfl, rfl⟩

end KeysetPaging
