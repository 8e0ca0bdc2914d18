import KeysetPaging.Proofs.Paging.Approach

/-!
# What failures are put down to

Over a source whose rows have values a request fails because its cursor does not verify, because the
source fails, because the page cannot carry the total, or for one more reason: its cursor verifies and
marks the greatest page number, and it heads forward over more rows than its page holds, so that there
is no number for the page behind. That failure is put down to the library although the cursor is the
client's.
-/

namespace KeysetPaging

variable {ρ ε : Type}

/-- Whether the fault lies with the cursor of a request or with the source. -/
def Failure.Foreseen : Failure ε → Prop
  | .cursor fault => fault.fromClient = true ∧
      (fault.kind = .malformedCursor ∨ fault.kind = .cursorSignature)
  | .source _ => True

theorem Query.foreseen_of_resolve {query : Query} {token : String} {fault : Fault}
    (rejected : (query.resolve token).outcome = .error fault) :
    (Failure.cursor fault : Failure ε).Foreseen := by
  rcases resolve_fault rejected with ⟨unread, rfl⟩ | rfl
  · exact ⟨rfl, Or.inl rfl⟩
  · exact ⟨rfl, Or.inr rfl⟩

namespace Query

/-- A request forward from the greatest page number, over more rows than its page holds. -/
structure Oversteps (policy : Policy) (source : Source Id ρ ε) (query : Query) : Prop where
  forward : query.heading = .forward
  marked : ∃ token value, query.cursor? = some token ∧
    (query.resolve token).outcome = .ok ⟨value, 4294967295⟩
  rows : query.demand.wantsRows = true
  more : ∃ seek total batch, (Seek.ofQuery policy query).outcome = .ok seek ∧
    Paging.countFor source query = .ok total ∧ source.fetch query seek = .ok batch ∧
    policy.endTest.reached batch.length query.size.toNat = false

/-- A request that finds rows, and a total that no page can carry. -/
structure Overcounts (policy : Policy) (source : Source Id ρ ε) (query : Query) : Prop where
  rows : query.demand.wantsRows = true
  large : ∃ count, Paging.countFor source query = .ok (some count) ∧
    9223372036854775808 ≤ count.toNat
  found : ∃ seek batch, (Seek.ofQuery policy query).outcome = .ok seek ∧
    source.fetch query seek = .ok batch ∧ batch ≠ []

/-- When a request comes to a failure. -/
def FailsBy (policy : Policy) (source : Source Id ρ ε) (query : Query) : Failure ε → Prop
  | .cursor fault =>
      (∃ token, query.cursor? = some token ∧ (query.resolve token).outcome = .error fault) ∨
        (query.Oversteps policy source ∧ fault = .internal .pageOverflow) ∨
        (query.Overcounts policy source ∧ ¬query.Oversteps policy source ∧
          fault = .internal .totalOverflow)
  | .source fault => ∃ seek, (Seek.ofQuery policy query).outcome = .ok seek ∧
      (Paging.countFor source query = .error fault ∨
        ∃ total, Paging.countFor source query = .ok total ∧ query.demand.wantsRows = true ∧
          source.fetch query seek = .error fault)

variable {policy : Policy} {source : Source Id ρ ε} {query : Query}

theorem overflows_iff {seek : Seek} (sought : (Seek.ofQuery policy query).outcome = .ok seek)
    {reachedEnd : Bool} :
    Page.Overflows query reachedEnd seek.currentPage ↔
      query.heading = .forward ∧ reachedEnd = false ∧
        ∃ token value, query.cursor? = some token ∧
          (query.resolve token).outcome = .ok ⟨value, 4294967295⟩ := by
  have later : (4294967295 : UInt32) ≠ pageOne := by decide
  rw [Page.Overflows, Seek.currentPage_eq_iff sought later]
  -- Where a cursor marks the page, the request is not one for the first page.
  refine and_congr_left ?_
  rintro ⟨-, token, value, cursor, -⟩
  cases heading : query.heading with
  | first =>
      rw [heading_eq_first_iff.mp heading] at cursor
      cases cursor
  | forward => exact iff_of_true nofun rfl
  | backward => exact iff_of_false (fun ahead => ahead rfl) nofun

/-- A request oversteps exactly if the page of its batch has no number for the page behind. -/
theorem oversteps_iff {seek : Seek} (sought : (Seek.ofQuery policy query).outcome = .ok seek)
    {total : Option UInt64} (counted : Paging.countFor source query = .ok total)
    (rows : query.demand.wantsRows = true) {batch : List ρ}
    (fetched : source.fetch query seek = .ok batch) :
    query.Oversteps policy source ↔
      Page.Overflows query (policy.endTest.reached batch.length query.size.toNat)
        seek.currentPage := by
  rw [overflows_iff sought]
  constructor
  · rintro ⟨forward, marked, -, seek', total', batch', sought', -, fetched', more⟩
    obtain rfl := Except.ok.inj (sought.symm.trans sought')
    obtain rfl := Except.ok.inj (fetched.symm.trans fetched')
    exact ⟨forward, more, marked⟩
  · rintro ⟨forward, more, marked⟩
    exact ⟨forward, marked, rows, seek, total, batch, sought, counted, fetched, more⟩

end Query

variable [CursorValued ρ]

/-- A source whose rows have values for the cursor field. -/
def Source.Valued (source : Source Id ρ ε) : Prop :=
  ∀ query seek batch, source.fetch query seek = .ok batch → Page.Valued batch

/-- A source whose rows have values, and whose totals a page can carry. -/
structure Source.Sound (source : Source Id ρ ε) : Prop where
  valued : source.Valued
  countable : ∀ query count, source.count query = .ok (some count) →
    count.toNat < 9223372036854775808

namespace Query

variable {policy : Policy} {source : Source Id ρ ε} {query : Query}

theorem answer_eq_source_iff {fault : ε} :
    Paging.answer policy source query = .error (.source fault) ↔
      query.FailsBy policy source (.source fault) := by
  rw [Paging.answer_eq_iff]
  constructor
  · intro ends
    cases ends with
    | uncounted sought counted => exact ⟨_, sought, Or.inl counted⟩
    | unfetched sought counted rows fetched => exact ⟨_, sought, Or.inr ⟨_, counted, rows, fetched⟩⟩
  · rintro ⟨seek, sought, counted | ⟨total, counted, rows, fetched⟩⟩
    · exact .uncounted sought counted
    · exact .unfetched sought counted rows fetched

/-- A batch does not compose exactly if the request oversteps the page numbers, or if it holds rows
and the page cannot carry the total. -/
theorem uncomposed_iff (sized : 0 < query.size) (valued : source.Valued) {seek : Seek}
    (sought : (Seek.ofQuery policy query).outcome = .ok seek) {total : Option UInt64}
    (counted : Paging.countFor source query = .ok total) (rows : query.demand.wantsRows = true)
    {batch : List ρ} (fetched : source.fetch query seek = .ok batch) {fault : Fault} :
    (Page.composeAt policy total batch query (.succeed seek.currentPage)).outcome = .error fault ↔
      (query.Oversteps policy source ∧ fault = .internal .pageOverflow) ∨
        (batch ≠ [] ∧ ¬query.Oversteps policy source ∧ Page.carryTotal total = .error fault) := by
  rw [oversteps_iff sought counted rows fetched]
  exact (valued query seek batch fetched).composeAt_eq_error_iff sized
    (Seek.positive_currentPage sought)

theorem answer_eq_cursor_iff (sized : 0 < query.size) {ascending : Bool}
    (ascends : query.ascending = .ok ascending) (valued : source.Valued) {fault : Fault} :
    Paging.answer policy source query = .error (.cursor fault) ↔
      query.FailsBy policy source (.cursor fault) := by
  rw [Paging.answer_eq_iff]
  constructor
  · intro ends
    cases ends with
    | rejected sought =>
        exact Or.inl (anchor_eq_error_iff.mp ((Seek.ofQuery_eq_error_iff ascends).mp sought))
    | uncomposed sought counted rows fetched composed =>
        rcases (uncomposed_iff sized valued sought counted rows fetched).mp composed with
          overstepped | ⟨found, within, uncarried⟩
        · exact Or.inr (Or.inl overstepped)
        · obtain ⟨⟨count, rfl, large⟩, rfl⟩ := Page.carryTotal_eq_error_iff.mp uncarried
          exact Or.inr (Or.inr
            ⟨⟨rows, ⟨count, counted, large⟩, _, _, sought, fetched, found⟩, within, rfl⟩)
  · rintro (rejected | ⟨oversteps, rfl⟩ | ⟨overcounts, within, rfl⟩)
    · exact .rejected ((Seek.ofQuery_eq_error_iff ascends).mpr (anchor_eq_error_iff.mpr rejected))
    · obtain ⟨seek, total, batch, sought, counted, fetched, -⟩ := oversteps.more
      refine .uncomposed sought counted oversteps.rows fetched ?_
      exact (uncomposed_iff sized valued sought counted oversteps.rows fetched).mpr
        (Or.inl ⟨oversteps, rfl⟩)
    · obtain ⟨count, counted, large⟩ := overcounts.large
      obtain ⟨seek, batch, sought, fetched, found⟩ := overcounts.found
      have uncarried := Page.carryTotal_eq_error_iff.mpr ⟨⟨count, rfl, large⟩, rfl⟩
      refine .uncomposed sought counted overcounts.rows fetched ?_
      exact (uncomposed_iff sized valued sought counted overcounts.rows fetched).mpr
        (Or.inr ⟨found, within, uncarried⟩)

/-- Over rows with values every failure of a request is one of these. -/
theorem Reachable.answer_eq_error_iff {settings : Settings} (reachable : query.Reachable settings)
    (valued : source.Valued) {failure : Failure ε} :
    Paging.answer policy source query = .error failure ↔ query.FailsBy policy source failure := by
  obtain ⟨ascending, ascends⟩ := reachable.wellFormed.exists_ascending
  cases failure with
  | cursor fault => exact answer_eq_cursor_iff reachable.wellFormed.size_pos ascends valued
  | source fault => exact answer_eq_source_iff

theorem not_overcounts (sound : source.Sound) : ¬query.Overcounts policy source := by
  intro overcounts
  obtain ⟨count, counted, large⟩ := overcounts.large
  unfold Paging.countFor at counted
  cases wanted : query.demand.wantsTotal with
  | false =>
      rw [wanted] at counted
      cases counted
  | true =>
      rw [wanted] at counted
      exact absurd (sound.countable query count counted) (Nat.not_lt.mpr large)

/-- Which failures a request comes to, and that each is foreseen exactly if the request does not
overstep the page numbers. -/
structure Blames (policy : Policy) (source : Source Id ρ ε) (query : Query) : Prop where
  fails_iff : ∀ failure, Paging.answer policy source query = .error failure ↔
    query.FailsBy policy source failure
  foreseen_iff : (∀ failure, Paging.answer policy source query = .error failure → failure.Foreseen) ↔
    ¬query.Oversteps policy source

/-- Failures are the client's or the source's unless the cursor marks the greatest page number. -/
theorem Reachable.blames {settings : Settings} (reachable : query.Reachable settings)
    (policy : Policy) (sound : source.Sound) : query.Blames policy source := by
  refine ⟨fun failure => reachable.answer_eq_error_iff sound.valued, ?_, ?_⟩
  · intro foreseen oversteps
    have unforeseen := foreseen (.cursor (.internal .pageOverflow))
      ((reachable.answer_eq_error_iff sound.valued).mpr (Or.inr (Or.inl ⟨oversteps, rfl⟩)))
    exact absurd unforeseen.1 Bool.false_ne_true
  · rintro within (fault | fault) failed
    · rcases (reachable.answer_eq_error_iff sound.valued).mp failed with
        ⟨token, -, rejected⟩ | ⟨oversteps, -⟩ | ⟨overcounts, -⟩
      · exact foreseen_of_resolve rejected
      · exact absurd oversteps within
      · exact absurd overcounts (not_overcounts sound)
    · trivial

end Query

/-- A table that hands out its own numbers is sound. -/
theorem Table.sound_ofIds {ids : List Int64} (few : ids.length < 9223372036854775808) :
    (Table.ofIds ids).source.Sound where
  valued := by
    intro query seek batch fetched
    change (anchorOf seek).map (fun anchor => (select ids seek anchor).map row) = .ok batch at fetched
    cases found : anchorOf seek with
    | error fault =>
        rw [found] at fetched
        cases fetched
    | ok anchor =>
        rw [found] at fetched
        cases fetched
        intro record member
        obtain ⟨id, -, rfl⟩ := List.mem_map.mp member
        exact ⟨decimal id, rfl⟩
  countable := by
    rintro query count ⟨⟩
    change (UInt64.ofNat ids.length).toNat < 9223372036854775808
    rw [UInt64.toNat_ofNat_of_lt' (by rw [UInt64.size]; omega)]
    exact few

/-- A cursor for the greatest page number, before three rows of which two fit the page. -/
theorem Query.Reachable.blames_of_greatest_page :
    ((Approach.past 9 4294967295).query (Query.latest 2 [])).Reachable .standard ∧
      (Table.ofIds [1, 2, 3]).source.Sound ∧
      ((Approach.past 9 4294967295).query (Query.latest 2 [])).Blames .standard
        (Table.ofIds [1, 2, 3]).source ∧
      Paging.answer .standard (Table.ofIds [1, 2, 3]).source
          ((Approach.past 9 4294967295).query (Query.latest 2 [])) =
        .error (.cursor (.internal .pageOverflow)) := by
  have positive : pageOne ≤ (Approach.past 9 4294967295).page := by decide
  have reachable : ((Approach.past 9 4294967295).query (Query.latest 2 [])).Reachable .standard :=
    .following _ (Query.latest_reachable 2 (by decide) (by decide) [])
  have sound : (Table.ofIds [1, 2, 3]).source.Sound := Table.sound_ofIds (by decide)
  have blames := reachable.blames .standard sound
  refine ⟨reachable, sound, blames, ?_⟩
  refine (blames.fails_iff _).mpr (Or.inr (Or.inl ⟨⟨rfl, ?_, rfl, ?_⟩, rfl⟩))
  · refine ⟨_, Table.decimal 9, rfl, ?_⟩
    exact congrArg Traced.outcome
      (Query.resolve_mark (Query.shape_following (Query.latest 2 []) _) positive
        (Query.utf8ByteSize_mark_le (Query.latest 2 []) 9 4294967295))
  · have ascends : (Query.latest 2 []).ascending = .ok false := rfl
    have honours : Honours (Table.ofIds [1, 2, 3]).source Table.row [1, 2, 3] :=
      Table.honours rfl rfl
    have fetched := honours.fetched ((Approach.past 9 4294967295).query (Query.latest 2 [])) _ _
      (Approach.anchorOf_query (Query.latest 2 []) (.past 9 4294967295) .standard false)
    rw [Approach.select_query rfl ascends (by decide)] at fetched
    exact ⟨_, none, _, Approach.seek_query rfl ascends positive .standard, rfl, fetched, by decide⟩

end KeysetPaging
