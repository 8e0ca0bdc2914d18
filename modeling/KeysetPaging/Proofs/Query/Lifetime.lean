import KeysetPaging.Page
import KeysetPaging.Proofs.Paging.Approach
import Mathlib.Logic.Relation

/-!
# The life of a query

A query is constructed once under some state of its policy and then becomes other queries: with
another filter, with a page size that the state of a policy at that time admits, with another cursor
or none, or turned to a neighbour of a page. None of these looks at the whole query again, yet every
query that comes about is sound: it asks for at least one row, its order names allowed fields only,
none of them twice and the cursor field once, and it holds at most one cursor. So the order always
tells whether the cursor field ascends, and nothing but the query's own cursor keeps a seek from being
made.
-/

namespace KeysetPaging

theorem EndTest.limit_pos (endTest : EndTest) {size : UInt32} (positive : 0 < size) :
    1 ≤ endTest.limit size := by
  have bound := endTest.le_limit size
  have sized : 0 < size.toNat := UInt32.lt_iff_toNat_lt.mp positive
  exact UInt32.le_iff_toNat_le.mpr (Nat.le_trans sized bound)

/-- A seek compares upward exactly if it fetches the cursor field in ascending order. -/
theorem Seek.side_eq_above_iff {query : Query} {ascending : Bool}
    (ascends : query.ascending = .ok ascending) (policy : Policy) (anchor : Option Position) :
    (fromAnchor policy query anchor ascending).side = .above ↔
      (fromAnchor policy query anchor ascending).fetchOrder.direction? query.cursorField =
        some .ascending := by
  obtain ⟨direction, found, rfl⟩ := Approach.direction_of_ascending ascends
  cases heading : query.heading with
  | first =>
      simp only [fromAnchor, heading, found]
      cases direction <;> decide
  | forward =>
      simp only [fromAnchor, heading, found]
      cases direction <;> decide
  | backward =>
      simp only [fromAnchor, heading, SortOrder.direction?_reversed, found]
      cases direction <;> decide

namespace Query

/-- The queries that can be constructed while the policy is in a state. A constructor of the usual page
size is the one for any page size at `policy.usualSize`. -/
inductive Constructed (policy : Policy) : Query → Prop where
  | first {size : UInt32} {query : Query} (made : Query.first policy size = .ok query) :
      Constructed policy query
  | next {cursor : String} {size : UInt32} {query : Query}
      (made : Query.next policy cursor size = .ok query) : Constructed policy query
  | prev {cursor : String} {size : UInt32} {query : Query}
      (made : Query.prev policy cursor size = .ok query) : Constructed policy query
  | orderedBy {field : String} {direction : Direction} {query : Query}
      (made : Query.orderedBy policy field direction = .ok query) : Constructed policy query
  | ofLists {prevCursor nextCursor : Option String} {size : UInt32} {demand : Demand}
      {fields : List String} {directions : List Direction} {query : Query}
      (made : Query.ofLists policy prevCursor nextCursor size demand fields directions = .ok query) :
      Constructed policy query
  | ofChanges {changes : List Draft.Change} {query : Query}
      (made : Query.ofChanges policy changes = .ok query) : Constructed policy query

/-- What a query can become in one step. A new page size is checked against any policy, in any state
that it can be in; a page that the query is turned by may be the answer to another query. -/
inductive Becomes : Query → Query → Prop where
  | filteredBy {query : Query} (filter : Shape.Filter) : Becomes query (query.filteredBy filter)
  | resized {settings : Settings} {policy : Policy} {query changed : Query} {size : UInt32}
      (state : policy.Reachable settings) (made : query.resized policy size = .ok changed) :
      Becomes query changed
  | following {query : Query} (cursor : String) : Becomes query (query.following cursor)
  | preceding {query : Query} (cursor : String) : Becomes query (query.preceding cursor)
  | fromStart {query : Query} : Becomes query query.fromStart
  | turned {ρ : Type} {page : Page ρ} {query changed : Query}
      (made : page.following query = some changed) : Becomes query changed
  | turnedBack {ρ : Type} {page : Page ρ} {query changed : Query}
      (made : page.preceding query = some changed) : Becomes query changed

/-- Every constructor finishes a draft. -/
theorem Constructed.exists_changes {policy : Policy} {query : Query}
    (constructed : query.Constructed policy) :
    ∃ changes, Query.ofChanges policy changes = .ok query := by
  cases constructed with
  | first made => exact ⟨_, made⟩
  | next made => exact ⟨_, made⟩
  | prev made => exact ⟨_, made⟩
  | orderedBy made => exact ⟨_, made⟩
  | ofLists made =>
      unfold Query.ofLists at made
      split at made
      · exact ⟨_, made⟩
      · cases made
  | ofChanges made => exact ⟨_, made⟩

section Life

variable {settings : Settings} {query changed : Query}

theorem Constructed.reachable {policy : Policy} (constructed : query.Constructed policy)
    (state : policy.Reachable settings) : query.Reachable settings := by
  obtain ⟨changes, made⟩ := constructed.exists_changes
  exact .built state made

theorem Becomes.reachable (step : Becomes query changed) (before : query.Reachable settings) :
    changed.Reachable settings := by
  cases step with
  | filteredBy filter => exact before.filteredBy filter
  | resized state made => exact before.resized state made
  | following cursor => exact before.following cursor
  | preceding cursor => exact before.preceding cursor
  | fromStart => exact before.fromStart
  | turned made =>
      obtain ⟨cursor, -, rfl⟩ := Option.map_eq_some_iff.mp made
      exact before.following cursor
  | turnedBack made =>
      obtain ⟨cursor, -, rfl⟩ := Option.map_eq_some_iff.mp made
      exact before.preceding cursor

theorem Reachable.becomes (before : query.Reachable settings)
    (life : Relation.ReflTransGen Becomes query changed) : changed.Reachable settings := by
  induction life with
  | refl => exact before
  | tail _ step ih => exact step.reachable ih

end Life

/-- What is known of a query whatever state its policy is in. -/
structure Sound (settings : Settings) (query : Query) : Prop where
  size_pos : 1 ≤ query.size
  ordered : query.order.terms ≠ []
  distinct : query.order.fields.Nodup
  allowed : ∀ policy : Policy, policy.Reachable settings →
    ∀ field ∈ query.order.fields, policy.allowed.allows field = true
  cursorField_once : query.order.fields.count query.cursorField = 1
  one_cursor : query.prevCursor = none ∨ query.nextCursor = none
  ascends : ∃ ascending, query.ascending = .ok ascending
  unsought : ∀ (policy : Policy) (fault : Fault),
    (Seek.ofQuery policy query).outcome = .error fault ↔
      ∃ token, query.cursor? = some token ∧ (query.resolve token).outcome = .error fault
  sought : ∀ (policy : Policy) (seek : Seek), (Seek.ofQuery policy query).outcome = .ok seek →
    1 ≤ seek.limit ∧
      (seek.side = .above ↔ seek.fetchOrder.direction? seek.cursorField = some .ascending)

theorem WellFormed.sound {settings : Settings} {query : Query}
    (formed : query.WellFormed settings) : query.Sound settings := by
  obtain ⟨ascending, ascends⟩ := formed.exists_ascending
  refine {
    size_pos := UInt32.le_iff_toNat_le.mpr (UInt32.lt_iff_toNat_lt.mp formed.size_pos)
    ordered := formed.terms_ne_nil
    distinct := formed.admitted.distinct
    allowed := fun policy state field member => ?_
    cursorField_once := List.count_eq_one_of_mem formed.admitted.distinct formed.cursor_mem
    one_cursor := formed.one_cursor
    ascends := ⟨ascending, ascends⟩
    unsought := fun policy fault =>
      (Seek.ofQuery_eq_error_iff ascends).trans anchor_eq_error_iff
    sought := fun policy seek made => ?_ }
  · rw [state.fields_eq.1]
    exact formed.admitted.allowed field member
  · obtain ⟨found, _, -, ascends, rfl⟩ := Seek.ofQuery_eq_ok_iff.mp made
    exact ⟨policy.endTest.limit_pos formed.size_pos, Seek.side_eq_above_iff ascends policy found⟩

/-- Whatever becomes of a query after it was constructed is sound. -/
theorem sound_of_becomes {settings : Settings} {policy : Policy} {made query : Query}
    (state : policy.Reachable settings) (constructed : made.Constructed policy)
    (life : Relation.ReflTransGen Becomes made query) : query.Sound settings :=
  ((constructed.reachable state).becomes life).wellFormed.sound

/-- A query for two rows is cut to one row under a maximum that was lowered to one, and then follows a
token that was made for nothing. -/
theorem sound_of_becomes_resized :
    Policy.standard.Reachable .standard ∧ (latest 2 []).Constructed Policy.standard ∧
      Relation.ReflTransGen Becomes (latest 2 []) ((latest 1 []).following "") ∧
      ((latest 1 []).following "").Sound .standard := by
  have state : Policy.standard.Reachable .standard := .made rfl
  have constructed : (latest 2 []).Constructed Policy.standard :=
    .first (Draft.finish_of_checks (Policy.checkSize_eq_ok_iff.mpr (by decide)) rfl (Or.inl rfl))
  have lowered : Policy.Reachable .standard { Policy.standard with maximumSize := 1 } :=
    state.setMaximum (show Policy.standard.setMaximum 1 = .ok _ from rfl)
  have cut : (latest 2 []).resized { Policy.standard with maximumSize := 1 } 1 =
      .ok (latest 1 []) := rfl
  have life : Relation.ReflTransGen Becomes (latest 2 []) ((latest 1 []).following "") :=
    (Relation.ReflTransGen.single (.resized lowered cut)).tail (.following "")
  exact ⟨state, constructed, life, sound_of_becomes state constructed life⟩

end Query

end KeysetPaging
