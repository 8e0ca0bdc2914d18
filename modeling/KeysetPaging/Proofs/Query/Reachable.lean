import KeysetPaging.Query.Draft

/-!
# Reachable queries

The queries that a deployment can come to hold: built from a draft under some state of its policy,
and then filtered, resized under any policy and moved from page to page in any order. They are the
queries with a page size that is not zero, an order that names the cursor field and no field twice,
and at most one cursor.
-/

namespace KeysetPaging

/-- The states that the policy of settings can come to be in. -/
inductive Policy.Reachable (settings : Settings) : Policy → Prop where
  | made {policy : Policy} (accepted : Policy.ofSettings settings = .ok policy) :
      Policy.Reachable settings policy
  | endingBy {policy : Policy} (endTest : EndTest) (state : Policy.Reachable settings policy) :
      Policy.Reachable settings (policy.endingBy endTest)
  | setMaximum {policy changed : Policy} {maximum : UInt32}
      (state : Policy.Reachable settings policy) (accepted : policy.setMaximum maximum = .ok changed) :
      Policy.Reachable settings changed

namespace Policy

theorem ofSettings_eq_ok {settings : Settings} {policy : Policy}
    (accepted : ofSettings settings = .ok policy) : policy = enforce settings := by
  unfold ofSettings at accepted
  cases checked : settings.check with
  | error fault =>
      rw [checked] at accepted
      cases accepted
  | ok _ =>
      rw [checked] at accepted
      exact (Except.ok.inj accepted).symm

theorem setMaximum_eq_ok {policy changed : Policy} {maximum : UInt32}
    (accepted : policy.setMaximum maximum = .ok changed) :
    changed = { policy with maximumSize := maximum } := by
  unfold setMaximum at accepted
  split at accepted
  · cases accepted
  · exact (Except.ok.inj accepted).symm

/-- No state of a policy changes which orders it admits. -/
theorem Reachable.fields_eq {settings : Settings} {policy : Policy}
    (state : Reachable settings policy) :
    policy.allowed = AllowList.ofNames settings.orderFields ∧
      policy.cursorField = settings.cursorField := by
  induction state with
  | made accepted =>
      rw [ofSettings_eq_ok accepted]
      exact ⟨rfl, rfl⟩
  | endingBy endTest _ ih => exact ih
  | setMaximum _ accepted ih =>
      rw [setMaximum_eq_ok accepted]
      exact ih

theorem Reachable.admits {settings : Settings} {policy : Policy}
    (state : Reachable settings policy) {order : SortOrder} (admits : policy.Admits order) :
    (enforce settings).Admits order := by
  obtain ⟨allowed, field⟩ := state.fields_eq
  refine ⟨?_, admits.distinct, ?_⟩
  · intro name member
    have allows := admits.allowed name member
    rwa [allowed] at allows
  · have member := admits.cursor_mem
    rwa [field] at member

/-- Consistent settings have a state of their policy in which a given page size is the maximum. -/
theorem exists_reachable {settings : Settings} (consistent : settings.Consistent) {maximum : UInt32}
    (positive : 0 < maximum) : ∃ policy : Policy, policy.Reachable settings ∧
      policy.maximumSize = maximum := by
  have accepted : ofSettings settings = .ok (enforce settings) := by
    rw [ofSettings, Settings.check_eq_ok_iff.mpr consistent]
    rfl
  have nonzero : maximum ≠ 0 := UInt32.pos_iff_ne_zero.mp positive
  exact ⟨{ enforce settings with maximumSize := maximum },
    .setMaximum (.made accepted) (if_neg nonzero), rfl⟩

theorem Reachable.consistent {settings : Settings} {policy : Policy}
    (state : Reachable settings policy) : settings.Consistent := by
  induction state with
  | made accepted =>
      apply Settings.check_eq_ok_iff.mp
      unfold ofSettings at accepted
      cases checked : settings.check with
      | error fault =>
          rw [checked] at accepted
          cases accepted
      | ok _ => rfl
  | endingBy endTest _ ih => exact ih
  | setMaximum _ accepted ih => exact ih

end Policy

/-- A finished draft passed every check, and the query holds what the draft held. -/
theorem Draft.finish_eq_ok {draft : Draft} {policy : Policy} {query : Query}
    (finished : draft.finish policy = .ok query) :
    policy.checkSize draft.size = .ok () ∧ policy.checkOrder ⟨draft.terms⟩ = .ok () ∧
      (draft.prevCursor = none ∨ draft.nextCursor = none) ∧
      query = {
        size := draft.size
        demand := draft.demand
        order := ⟨draft.terms⟩
        cursorField := policy.cursorField
        prevCursor := draft.prevCursor
        nextCursor := draft.nextCursor
        filter := draft.filter } := by
  unfold finish at finished
  cases size : policy.checkSize draft.size with
  | error fault =>
      rw [size] at finished
      cases finished
  | ok _ =>
      cases order : policy.checkOrder ⟨draft.terms⟩ with
      | error fault =>
          rw [size, order] at finished
          cases finished
      | ok _ =>
          rw [size, order] at finished
          cases both : draft.prevCursor.isSome && draft.nextCursor.isSome with
          | true =>
              rw [both] at finished
              cases finished
          | false =>
              rw [both] at finished
              refine ⟨rfl, rfl, ?_, (Except.ok.inj finished).symm⟩
              rcases Bool.and_eq_false_iff.mp both with prev | next
              · exact Or.inl (Option.not_isSome_iff_eq_none.mp (Bool.eq_false_iff.mp prev))
              · exact Or.inr (Option.not_isSome_iff_eq_none.mp (Bool.eq_false_iff.mp next))

theorem Draft.finish_of_checks {draft : Draft} {policy : Policy}
    (size : policy.checkSize draft.size = .ok ()) (order : policy.checkOrder ⟨draft.terms⟩ = .ok ())
    (cursors : draft.prevCursor = none ∨ draft.nextCursor = none) :
    draft.finish policy = .ok {
      size := draft.size
      demand := draft.demand
      order := ⟨draft.terms⟩
      cursorField := policy.cursorField
      prevCursor := draft.prevCursor
      nextCursor := draft.nextCursor
      filter := draft.filter } := by
  have single : (draft.prevCursor.isSome && draft.nextCursor.isSome) = false := by
    rcases cursors with absent | absent
    · rw [absent]
      rfl
    · rw [absent]
      exact Bool.and_false _
  unfold finish
  rw [size, order, single]
  rfl

theorem Draft.foldl_orderBy (terms : List SortTerm) (draft : Draft) :
    (terms.map fun term => Change.orderBy term.field term.direction).foldl Draft.change draft =
      { draft with terms := draft.terms ++ terms } := by
  induction terms generalizing draft with
  | nil => simp
  | cons term rest ih => simp [ih, Draft.change]

namespace Query

/-- The changes that make a draft hold what the query holds. -/
def changes (query : Query) : List Draft.Change :=
  [.size query.size, .demand query.demand, .filter query.filter] ++
    (query.order.terms.map fun term => .orderBy term.field term.direction) ++
    query.prevCursor.toList.map .prevCursor ++ query.nextCursor.toList.map .nextCursor

theorem foldl_changes (query : Query) (policy : Policy) :
    query.changes.foldl Draft.change (Draft.start policy) =
      { size := query.size
        demand := query.demand
        terms := query.order.terms
        prevCursor := query.prevCursor
        nextCursor := query.nextCursor
        filter := query.filter } := by
  rw [changes, List.foldl_append, List.foldl_append, List.foldl_append, Draft.foldl_orderBy]
  cases query.prevCursor <;> cases query.nextCursor <;> rfl

/-- The queries that can be made under settings. -/
inductive Reachable (settings : Settings) : Query → Prop where
  | built {policy : Policy} {changes : List Draft.Change} {query : Query}
      (state : policy.Reachable settings) (made : ofChanges policy changes = .ok query) :
      Reachable settings query
  | filteredBy {query : Query} (filter : Shape.Filter) (before : Reachable settings query) :
      Reachable settings (query.filteredBy filter)
  | resized {other : Settings} {policy : Policy} {query changed : Query} {size : UInt32}
      (before : Reachable settings query) (state : policy.Reachable other)
      (made : query.resized policy size = .ok changed) : Reachable settings changed
  | following {query : Query} (cursor : String) (before : Reachable settings query) :
      Reachable settings (query.following cursor)
  | preceding {query : Query} (cursor : String) (before : Reachable settings query) :
      Reachable settings (query.preceding cursor)
  | fromStart {query : Query} (before : Reachable settings query) :
      Reachable settings query.fromStart

/-- The first page of the latest rows, with a filter, under the standard settings. -/
def latest (size : UInt32) (filter : Shape.Filter) : Query where
  size := size
  demand := .rows
  order := .single standardCursorField .descending
  cursorField := standardCursorField
  prevCursor := none
  nextCursor := none
  filter := filter

theorem latest_reachable (size : UInt32) (positive : 0 < size) (bounded : size ≤ 8192)
    (filter : Shape.Filter) : (latest size filter).Reachable .standard := by
  have sized : Policy.standard.checkSize size = .ok () :=
    Policy.checkSize_eq_ok_iff.mpr ⟨positive, bounded⟩
  have ordered : Policy.standard.checkOrder (.single standardCursorField .descending) = .ok () := rfl
  have made : first Policy.standard size = .ok (latest size []) :=
    Draft.finish_of_checks sized ordered (Or.inl rfl)
  exact .filteredBy filter (.built (.made rfl) made)

/-- The first page of records in the order in which they were made, with ties in the order of their
numbers. -/
def byCreation (size : UInt32) : Query where
  size := size
  demand := .rows
  order := ⟨[⟨StandardField.created.name, .ascending⟩, ⟨standardCursorField, .ascending⟩]⟩
  cursorField := standardCursorField
  prevCursor := none
  nextCursor := none
  filter := []

theorem byCreation_reachable (size : UInt32) (positive : 0 < size) (bounded : size ≤ 8192) :
    (byCreation size).Reachable .standard := by
  have sized : Policy.standard.checkSize size = .ok () :=
    Policy.checkSize_eq_ok_iff.mpr ⟨positive, bounded⟩
  have ordered : Policy.standard.checkOrder (byCreation size).order = .ok () := rfl
  have made : ofChanges Policy.standard [.size size,
      .orderBy StandardField.created.name .ascending, .orderBy standardCursorField .ascending] =
        .ok (byCreation size) :=
    Draft.finish_of_checks sized ordered (Or.inl rfl)
  exact .built (.made rfl) made

/-- A query with a page size, an order that the settings admit, and at most one cursor. -/
structure WellFormed (settings : Settings) (query : Query) : Prop where
  size_pos : 0 < query.size
  cursorField_eq : query.cursorField = settings.cursorField
  admitted : (Policy.enforce settings).Admits query.order
  one_cursor : query.prevCursor = none ∨ query.nextCursor = none

theorem Reachable.wellFormed {settings : Settings} {query : Query}
    (reachable : query.Reachable settings) : query.WellFormed settings := by
  induction reachable with
  | built state made =>
      obtain ⟨size, order, cursors, rfl⟩ := Draft.finish_eq_ok made
      exact ⟨(Policy.checkSize_eq_ok_iff.mp size).1, state.fields_eq.2,
        state.admits (Policy.checkOrder_eq_ok_iff.mp order), cursors⟩
  | filteredBy filter _ ih => exact ⟨ih.size_pos, ih.cursorField_eq, ih.admitted, ih.one_cursor⟩
  | @resized _ policy query changed size _ _ made ih =>
      unfold Query.resized at made
      cases checked : policy.checkSize size with
      | error fault =>
          rw [checked] at made
          cases made
      | ok _ =>
          rw [checked] at made
          cases made
          exact ⟨(Policy.checkSize_eq_ok_iff.mp checked).1, ih.cursorField_eq, ih.admitted,
            ih.one_cursor⟩
  | following cursor _ ih => exact ⟨ih.size_pos, ih.cursorField_eq, ih.admitted, Or.inl rfl⟩
  | preceding cursor _ ih => exact ⟨ih.size_pos, ih.cursorField_eq, ih.admitted, Or.inr rfl⟩
  | fromStart _ ih => exact ⟨ih.size_pos, ih.cursorField_eq, ih.admitted, Or.inl rfl⟩

theorem Reachable.consistent {settings : Settings} {query : Query}
    (reachable : query.Reachable settings) : settings.Consistent := by
  induction reachable with
  | built state made => exact state.consistent
  | filteredBy filter _ ih => exact ih
  | resized _ _ _ ih => exact ih
  | following cursor _ ih => exact ih
  | preceding cursor _ ih => exact ih
  | fromStart _ ih => exact ih

/-- A well-formed query can be built once its page size is the maximum. -/
theorem WellFormed.reachable {settings : Settings} {query : Query}
    (formed : query.WellFormed settings) (consistent : settings.Consistent) :
    query.Reachable settings := by
  -- No maximum bounds the size of a reachable query, since each state of the policy sets its own.
  obtain ⟨policy, state, maximum⟩ := Policy.exists_reachable consistent formed.size_pos
  obtain ⟨allowed, field⟩ := state.fields_eq
  have size : policy.checkSize query.size = .ok () :=
    Policy.checkSize_eq_ok_iff.mpr ⟨formed.size_pos, by rw [maximum]; exact UInt32.le_refl _⟩
  have order : policy.checkOrder query.order = .ok () := by
    refine Policy.checkOrder_eq_ok_iff.mpr ⟨?_, formed.admitted.distinct, ?_⟩
    · rw [allowed]
      exact formed.admitted.allowed
    · rw [field]
      exact formed.admitted.cursor_mem
  have made : ofChanges policy query.changes = .ok query := by
    rw [ofChanges, foldl_changes, Draft.finish_of_checks size order formed.one_cursor, field,
      ← formed.cursorField_eq]
  exact .built state made

/-- The queries that can be made under settings are the well-formed ones. -/
theorem reachable_iff {settings : Settings} {query : Query} :
    query.Reachable settings ↔ settings.Consistent ∧ query.WellFormed settings :=
  ⟨fun reachable => ⟨reachable.consistent, reachable.wellFormed⟩,
    fun ⟨consistent, formed⟩ => formed.reachable consistent⟩

namespace WellFormed

variable {settings : Settings} {query : Query}

theorem cursor_mem (formed : query.WellFormed settings) :
    query.cursorField ∈ query.order.fields := by
  rw [formed.cursorField_eq]
  exact formed.admitted.cursor_mem

theorem terms_ne_nil (formed : query.WellFormed settings) : query.order.terms ≠ [] := by
  intro noTerms
  have member := formed.cursor_mem
  rw [SortOrder.fields, noTerms] at member
  cases member

/-- The order of a well-formed query tells whether its cursor field ascends. -/
theorem exists_ascending (formed : query.WellFormed settings) :
    ∃ ascending, query.ascending = .ok ascending := by
  have named := SortOrder.direction?_isSome_iff.mpr formed.cursor_mem
  obtain ⟨direction, found⟩ := Option.isSome_iff_exists.mp named
  exact ⟨direction.isAscending, by rw [Query.ascending, found]⟩

end WellFormed

end Query

end KeysetPaging
