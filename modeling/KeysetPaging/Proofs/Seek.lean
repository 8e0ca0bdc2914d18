import KeysetPaging.Proofs.Cursor.Language
import KeysetPaging.Proofs.Query.Reachable
import KeysetPaging.Seek

/-!
# Where a seek starts from

The seek of a query starts from the position that its cursor marks, and there is none exactly if the
cursor is rejected, provided the order tells whether the cursor field ascends. A rejection is put down
to the token or to its signature and never to the library, and a position that is accepted has a page
number.
-/

namespace KeysetPaging

namespace Query

/-- A token is rejected because it cannot be read or because it was made for something else. -/
theorem resolve_fault {query : Query} {token : String} {fault : Fault}
    (rejected : (query.resolve token).outcome = .error fault) :
    (∃ unread, fault = .token unread) ∨ fault = .signature := by
  by_cases unread : ∃ unread, fault = .token unread
  · exact Or.inl unread
  · have formed : ∀ cause, SignedPayload.ofToken token = .error cause →
        (.error fault : Except Fault Position) ≠ .error (.token cause) := by
      intro cause _ same
      exact unread ⟨cause, Except.error.inj same⟩
    obtain ⟨signed, -, judged⟩ := (outcome_eq_iff formed).mp rejected
    rcases judge_eq_iff.mp judged with ⟨-, payload⟩ | ⟨-, foreign⟩
    · cases read : Position.ofPayload signed.payload with
      | ok position =>
          rw [read] at payload
          cases payload
      | error cause =>
          rw [read] at payload
          exact absurd ⟨cause, (Except.error.inj payload).symm⟩ unread
    · exact Or.inr (Except.error.inj foreign)

/-- The anchor of a request with a cursor is the position that the cursor verifies to. -/
theorem anchor_eq_ok_iff {query : Query} {token : String}
    (cursor : query.cursor? = some token) {found : Option Position} :
    query.anchor.outcome = .ok found ↔
      ∃ position, (query.resolve token).outcome = .ok position ∧ found = some position := by
  rw [anchor, cursor, resolve?, Traced.outcome_bind_eq_ok_iff]
  simp [eq_comm]

theorem anchor_of_first {query : Query} (bare : query.heading = .first) :
    query.anchor.outcome = .ok none := by
  rw [anchor, heading_eq_first_iff.mp bare]
  rfl

/-- A request is rejected for its cursor exactly if the cursor does not verify. -/
theorem anchor_eq_error_iff {query : Query} {fault : Fault} :
    query.anchor.outcome = .error fault ↔
      ∃ token, query.cursor? = some token ∧ (query.resolve token).outcome = .error fault := by
  cases cursor : query.cursor? with
  | none => simp [anchor_of_first (heading_eq_first_iff.mpr cursor)]
  | some token =>
      rw [anchor, cursor, resolve?, Traced.outcome_bind_eq_error_iff]
      simp

theorem positive_of_anchor {query : Query} {found : Option Position}
    (anchored : query.anchor.outcome = .ok found) : pageOne ≤ found.elim pageOne Position.page := by
  cases cursor : query.cursor? with
  | none =>
      rw [anchor_of_first (heading_eq_first_iff.mpr cursor)] at anchored
      cases anchored
      exact UInt32.le_refl pageOne
  | some token =>
      obtain ⟨position, accepted, rfl⟩ := (anchor_eq_ok_iff cursor).mp anchored
      exact positive_of_resolve accepted

end Query

namespace Seek

variable {policy : Policy} {query : Query}

theorem ofQuery_eq_ok_iff {seek : Seek} :
    (ofQuery policy query).outcome = .ok seek ↔ ∃ found ascending,
      query.anchor.outcome = .ok found ∧ query.ascending = .ok ascending ∧
        seek = fromAnchor policy query found ascending := by
  rw [ofQuery, Traced.outcome_bind_eq_ok_iff]
  refine exists_congr fun found => ?_
  rw [Traced.outcome_bind_eq_ok_iff]
  cases query.ascending with
  | error fault => simp [Traced.ofExcept, Except.mapError]
  | ok ascending => simp [Traced.ofExcept, Except.mapError, eq_comm]

theorem ofQuery_eq_error_iff {ascending : Bool} (ascends : query.ascending = .ok ascending)
    {fault : Fault} :
    (ofQuery policy query).outcome = .error fault ↔ query.anchor.outcome = .error fault := by
  rw [ofQuery, Traced.outcome_bind_eq_error_iff, ascends]
  refine or_iff_left ?_
  rintro ⟨found, -, impossible⟩
  cases impossible

/-- The page number that a seek counts from is one. -/
theorem positive_currentPage {seek : Seek} (sought : (ofQuery policy query).outcome = .ok seek) :
    pageOne ≤ seek.currentPage := by
  obtain ⟨found, ascending, anchored, -, rfl⟩ := ofQuery_eq_ok_iff.mp sought
  exact Query.positive_of_anchor anchored

/-- A seek counts from a page behind the first only if the cursor of its query marks that page. -/
theorem currentPage_eq_iff {seek : Seek} (sought : (ofQuery policy query).outcome = .ok seek)
    {page : UInt32} (later : page ≠ pageOne) :
    seek.currentPage = page ↔
      ∃ token value, query.cursor? = some token ∧
        (query.resolve token).outcome = .ok ⟨value, page⟩ := by
  obtain ⟨found, ascending, anchored, -, rfl⟩ := ofQuery_eq_ok_iff.mp sought
  change found.elim pageOne Position.page = page ↔ _
  cases cursor : query.cursor? with
  | none =>
      rw [Query.anchor_of_first (Query.heading_eq_first_iff.mpr cursor)] at anchored
      cases anchored
      simpa using later.symm
  | some token =>
      obtain ⟨position, accepted, rfl⟩ := (Query.anchor_eq_ok_iff cursor).mp anchored
      rw [Option.elim_some]
      constructor
      · rintro rfl
        exact ⟨token, position.value, rfl, accepted⟩
      · rintro ⟨_, value, ⟨⟩, marks⟩
        rw [Except.ok.inj (accepted.symm.trans marks)]

end Seek

/-- A request whose cursor verifies seeks from the position that the cursor marks. -/
theorem Query.seek_of_resolve {query : Query} {token : String} {position : Position}
    {ascending : Bool} (cursor : query.cursor? = some token)
    (ascends : query.ascending = .ok ascending)
    (accepted : (query.resolve token).outcome = .ok position) (policy : Policy) :
    (Seek.ofQuery policy query).outcome =
      .ok (Seek.fromAnchor policy query (some position) ascending) :=
  Seek.ofQuery_eq_ok_iff.mpr
    ⟨some position, ascending, (anchor_eq_ok_iff cursor).mpr ⟨position, accepted, rfl⟩, ascends, rfl⟩

end KeysetPaging
