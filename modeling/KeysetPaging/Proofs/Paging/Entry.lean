import KeysetPaging.Proofs.Paging.Approach

/-!
# Requests from any entry point

A request need not come from a walk: its cursor may mark any value that reads as a number, which no
row of the table has to have, and any page number. It is answered as the request of a walk is that
heads the same way from the same number and page, so nothing depends on how the value spells the
number.
-/

namespace KeysetPaging

/-- A query with at most one cursor asks for the first page, or heads from its one cursor. -/
theorem Query.WellFormed.cases_cursor {settings : Settings} {query : Query}
    (formed : query.WellFormed settings) :
    query = query.fromStart ∨ (∃ token, query = query.fromStart.following token) ∨
      ∃ token, query = query.fromStart.preceding token := by
  have single := formed.one_cursor
  cases query with
  | mk size demand order cursorField prevCursor nextCursor filter =>
      cases prevCursor with
      | none =>
          cases nextCursor with
          | none => exact Or.inl rfl
          | some token => exact Or.inr (Or.inl ⟨token, rfl⟩)
      | some token =>
          rcases single with noPrev | rfl
          · cases noPrev
          · exact Or.inr (Or.inr ⟨token, rfl⟩)

namespace Approach

/-- A request that starts where an approach does: without a cursor, or from a cursor that verifies
and marks a value which reads as the number. -/
inductive Enters (first : Query) : Approach → Query → Prop where
  | start : Enters first .start first
  | past {token : String} {position : Position} {id : Int64}
      (accepted : ((first.following token).resolve token).outcome = .ok position)
      (number : position.number = .ok id) :
      Enters first (.past id position.page) (first.following token)
  | before {token : String} {position : Position} {id : Int64}
      (accepted : ((first.preceding token).resolve token).outcome = .ok position)
      (number : position.number = .ok id) :
      Enters first (.before id position.page) (first.preceding token)

/-- Every request whose cursor is absent or marks a number starts where an approach does. -/
theorem exists_enters {settings : Settings} {query : Query} (formed : query.WellFormed settings)
    {found : Option Position} (anchored : query.anchor.outcome = .ok found)
    (numeric : ∀ position, found = some position → ∃ id, position.number = .ok id) :
    ∃ approach : Approach, pageOne ≤ approach.page ∧ approach.Enters query.fromStart query := by
  generalize opening : query.fromStart = first
  rcases formed.cases_cursor with bare | ⟨token, heads⟩ | ⟨token, heads⟩
  · rw [bare, opening]
    exact ⟨.start, UInt32.le_refl pageOne, .start⟩
  · rw [heads, opening] at anchored ⊢
    obtain ⟨position, accepted, rfl⟩ := (Query.anchor_eq_ok_iff rfl).mp anchored
    obtain ⟨id, number⟩ := numeric position rfl
    exact ⟨.past id position.page, Query.positive_of_resolve accepted, .past accepted number⟩
  · rw [heads, opening] at anchored ⊢
    obtain ⟨position, accepted, rfl⟩ := (Query.anchor_eq_ok_iff rfl).mp anchored
    obtain ⟨id, number⟩ := numeric position rfl
    exact ⟨.before id position.page, Query.positive_of_resolve accepted, .before accepted number⟩

namespace Enters

variable {first query : Query} {approach : Approach}

theorem following_eq (enters : approach.Enters first query) (token : String) :
    query.following token = first.following token := by
  cases enters <;> rfl

theorem preceding_eq (enters : approach.Enters first query) (token : String) :
    query.preceding token = first.preceding token := by
  cases enters <;> rfl

/-- The request seeks what the request of the approach seeks, but for the spelling of the number. -/
theorem exists_seek (enters : approach.Enters first query) (bare : first.heading = .first)
    {ascending : Bool} (ascends : first.ascending = .ok ascending) (policy : Policy) :
    ∃ position, (Seek.ofQuery policy query).outcome =
        .ok (Seek.fromAnchor policy query position ascending) ∧
      position.elim pageOne Position.page = approach.page ∧
      Table.anchorOf (Seek.fromAnchor policy query position ascending) = .ok approach.anchor := by
  cases enters with
  | start =>
      have positive : pageOne ≤ Approach.start.page := UInt32.le_refl pageOne
      exact ⟨none, seek_query bare ascends positive policy, rfl, rfl⟩
  | @past token position id accepted number =>
      have ascends : (first.following token).ascending = .ok ascending := ascends
      refine ⟨some position, Query.seek_of_resolve rfl ascends accepted policy, rfl, ?_⟩
      simp only [Table.anchorOf, Seek.fromAnchor, number, anchor]
  | @before token position id accepted number =>
      have ascends : (first.preceding token).ascending = .ok ascending := ascends
      refine ⟨some position, Query.seek_of_resolve rfl ascends accepted policy, rfl, ?_⟩
      simp only [Table.anchorOf, Seek.fromAnchor, number, anchor]

/-- What a table selects does not depend on how the anchor is spelled. -/
theorem select_eq (enters : approach.Enters first query) (policy : Policy)
    (position position' : Option Position) (ascending : Bool) (ids : List Int64)
    (anchor : Option Int64) :
    Table.select ids (Seek.fromAnchor policy query position ascending) anchor =
      Table.select ids (Seek.fromAnchor policy (approach.query first) position' ascending)
        anchor := by
  -- The text of the cursor is generalized, for otherwise it is compared by computing it.
  cases enters with
  | start => rfl
  | @past token found id =>
      rw [Approach.query]
      generalize first.mark (Table.decimal id) found.page = other
      rfl
  | @before token found id =>
      rw [Approach.query]
      generalize first.mark (Table.decimal id) found.page = other
      rfl

theorem composeAt_eq {ρ : Type} [CursorValued ρ] (enters : approach.Enters first query)
    (policy : Policy) (total : Option UInt64) (batch : List ρ) (page : Traced Fault UInt32) :
    Page.composeAt policy total batch query page =
      Page.composeAt policy total batch (approach.query first) page := by
  cases enters with
  | start => rfl
  | @past token found id =>
      rw [Approach.query]
      generalize first.mark (Table.decimal id) found.page = other
      rfl
  | @before token found id =>
      rw [Approach.query]
      generalize first.mark (Table.decimal id) found.page = other
      rfl

theorem demand_eq (enters : approach.Enters first query) : query.demand = first.demand := by
  cases enters <;> rfl

/-- The request is answered as the request of the approach is. -/
theorem answer_iff {ρ ε : Type} [CursorValued ρ] {source : Source Id ρ ε} {row : Int64 → ρ}
    {ids : List Int64} (honours : Honours source row ids)
    {counted : Except ε (Option UInt64)} (counts : ∀ query, source.count query = counted)
    {ascending : Bool} (opens : first.Opens ascending) (positive : pageOne ≤ approach.page)
    (enters : approach.Enters first query) {policy : Policy} {page : Page ρ} :
    Paging.answer policy source query = .ok page ↔
      Paging.answer policy source (approach.query first) = .ok page := by
  obtain ⟨position, sought, current, anchored⟩ :=
    enters.exists_seek opens.bare opens.ascends policy
  have rows : query.demand.wantsRows = true := by
    rw [enters.demand_eq]
    exact opens.rows
  have rows' : (approach.query first).demand.wantsRows = true := by
    rw [demand_query]
    exact opens.rows
  have demand : query.demand = (approach.query first).demand := by
    rw [enters.demand_eq, demand_query]
  have current' : (approach.position).elim pageOne Position.page = approach.page := by
    cases approach <;> rfl
  rw [Paging.answer_eq_ok_iff rows sought,
    Paging.answer_eq_ok_iff rows' (seek_query opens.bare opens.ascends positive policy),
    honours.fetched _ _ _ anchored,
    honours.fetched _ _ _ (anchorOf_query first approach policy ascending),
    Paging.countFor_congr counts demand,
    enters.select_eq policy position approach.position]
  simp only [enters.composeAt_eq, Seek.currentPage, Seek.fromAnchor, current, current']

end Enters

end Approach

end KeysetPaging
