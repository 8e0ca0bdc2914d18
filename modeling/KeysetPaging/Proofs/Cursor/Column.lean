import KeysetPaging.Proofs.Cursor.Binding
import KeysetPaging.Proofs.Cursor.RoundTrip
import KeysetPaging.Proofs.Seek

/-!
# The columns that a token reaches

The shape of a query names the fields of its order but not which of them cursors point into. A token
is therefore accepted by the queries of every deployment that orders the same way, whichever of the
ordered fields its own cursors point into, and the value of the token is then compared to that field.
Only an order by one field binds the cursor field.
-/

namespace KeysetPaging

/-- The same settings with cursors that point into another field. -/
def Settings.pointingInto (settings : Settings) (field : String) : Settings :=
  { settings with cursorField := field }

namespace Query

/-- The same query with cursors that point into another field. -/
def pointingInto (query : Query) (field : String) : Query :=
  { query with cursorField := field }

@[simp] theorem shape_pointingInto (query : Query) (field : String) :
    (query.pointingInto field).shape = query.shape := rfl

/-- Cursors may point into each field of an order. -/
theorem Reachable.pointingInto {settings : Settings} {query : Query}
    (reachable : query.Reachable settings) {field : String} (member : field ∈ query.order.fields) :
    (query.pointingInto field).Reachable (settings.pointingInto field) := by
  obtain ⟨consistent, formed⟩ := reachable_iff.mp reachable
  have listed : field ∈ settings.orderFields :=
    AllowList.allows_ofNames.mp (formed.admitted.allowed field member)
  exact reachable_iff.mpr
    ⟨⟨consistent.usual_pos, consistent.usual_le, listed⟩,
      ⟨formed.size_pos, rfl, ⟨formed.admitted.allowed, formed.admitted.distinct, member⟩,
        formed.one_cursor⟩⟩

/-- A token is accepted by queries that ask for the same pages only, a pair of texts with one digest
apart. -/
theorem agrees_or_collide_of_resolve {maker query : Query} (ordered : maker.order.terms ≠ [])
    (ordered' : query.order.terms ≠ []) {position found : Position}
    (fits : (maker.mark position.value position.page).utf8ByteSize ≤ tokenLimit)
    (accepted : (query.resolve (maker.mark position.value position.page)).outcome = .ok found) :
    maker.Agrees query ∨
      Collide (signedText maker.shape position.payload) (signedText query.shape position.payload) := by
  by_cases agrees : maker.Agrees query
  · exact Or.inl agrees
  · rcases resolve_mark_of_not_agrees agrees ordered ordered' fits with rejected | collide
    · rw [rejected] at accepted
      cases accepted
    · exact Or.inr collide

/-- Which queries a token is accepted by, according to the field that their cursors point into. A
pair of texts with one digest is not counted as acceptance. -/
structure Reaches (maker : Query) (position : Position) (token : String) : Prop where
  issued : maker.tokenFor (some position.value) position.page = .ok token
  accepted_iff : token.utf8ByteSize ≤ 8192 → ∀ field,
    (∃ (other : Settings) (query : Query), query.Reachable other ∧ query.cursorField = field ∧
      (∃ found, (query.resolve token).outcome = .ok found) ∧
      ¬Collide (signedText maker.shape position.payload)
        (signedText query.shape position.payload)) ↔
    field ∈ maker.order.fields
  compared : token.utf8ByteSize ≤ 8192 → ∀ field ∈ maker.order.fields,
    ∃ (other : Settings) (query : Query), query.Reachable other ∧ query.nextCursor = some token ∧
      ∀ policy, ∃ seek, (Seek.ofQuery policy query).outcome = .ok seek ∧
        seek.cursorField = field ∧ seek.anchor = some position
  bound_iff : token.utf8ByteSize ≤ 8192 →
    ((∀ (other : Settings) (query : Query), query.Reachable other →
      (∃ found, (query.resolve token).outcome = .ok found) →
        query.cursorField = maker.cursorField ∨
          Collide (signedText maker.shape position.payload)
            (signedText query.shape position.payload)) ↔
      maker.order.fields = [maker.cursorField])

theorem mem_fields_or_collide {settings other : Settings} {maker query : Query}
    (reachable : maker.Reachable settings) (reachable' : query.Reachable other)
    {position found : Position}
    (fits : (maker.mark position.value position.page).utf8ByteSize ≤ tokenLimit)
    (accepted : (query.resolve (maker.mark position.value position.page)).outcome = .ok found) :
    query.cursorField ∈ maker.order.fields ∨
      Collide (signedText maker.shape position.payload)
        (signedText query.shape position.payload) := by
  refine (agrees_or_collide_of_resolve reachable.wellFormed.terms_ne_nil
    reachable'.wellFormed.terms_ne_nil fits accepted).imp_left fun agrees => ?_
  rw [agrees.order_eq]
  exact reachable'.wellFormed.cursor_mem

theorem not_collide_pointingInto (maker : Query) (field : String) (payload : String) :
    ¬Collide (signedText maker.shape payload)
      (signedText (maker.pointingInto field).shape payload) :=
  fun collide => collide.differ rfl

/-- The cursor field of an order by one field is that field. -/
theorem WellFormed.fields_eq_singleton_iff {settings : Settings} {query : Query}
    (formed : query.WellFormed settings) :
    query.order.fields = [query.cursorField] ↔
      ∀ field ∈ query.order.fields, field = query.cursorField := by
  constructor
  · intro single field member
    rw [single] at member
    exact List.mem_singleton.mp member
  · intro all
    have repeated := List.eq_replicate_of_mem all
    have distinct := formed.admitted.distinct
    rw [repeated, List.nodup_replicate] at distinct
    have positive := List.length_pos_of_mem formed.cursor_mem
    rw [repeated, Nat.le_antisymm distinct positive]
    rfl

/-- Tokens reach each field that their query orders by. -/
theorem Reachable.exists_reaches {settings : Settings} {maker : Query}
    (reachable : maker.Reachable settings) {position : Position}
    (positive : pageOne ≤ position.page) : ∃ token, maker.Reaches position token := by
  have accepts : ∀ query : Query, query.shape = maker.shape →
      (maker.mark position.value position.page).utf8ByteSize ≤ 8192 →
      (query.resolve (maker.mark position.value position.page)).outcome = .ok position :=
    fun query shape fits => congrArg Traced.outcome (resolve_mark shape positive fits)
  refine ⟨maker.mark position.value position.page, ?_, ?_, ?_, ?_⟩
  · exact tokenFor_some positive maker position.value
  · intro fits field
    constructor
    · rintro ⟨other, query, reachable', rfl, ⟨found, accepted⟩, apart⟩
      exact (mem_fields_or_collide reachable reachable' fits accepted).resolve_right apart
    · intro member
      exact ⟨_, maker.pointingInto field, reachable.pointingInto member, rfl,
        ⟨position, accepts _ (shape_pointingInto maker field) fits⟩,
        not_collide_pointingInto maker field _⟩
  · intro fits field member
    have reachable' := (reachable.pointingInto member).following
      (maker.mark position.value position.page)
    obtain ⟨ascending, ascends⟩ := reachable'.wellFormed.exists_ascending
    have accepted := accepts
      ((maker.pointingInto field).following (maker.mark position.value position.page)) rfl fits
    exact ⟨_, _, reachable', rfl, fun policy =>
      ⟨_, seek_of_resolve rfl ascends accepted policy, rfl, rfl⟩⟩
  · intro fits
    rw [reachable.wellFormed.fields_eq_singleton_iff]
    constructor
    · intro bound field member
      refine (bound _ _ (reachable.pointingInto member) ⟨position, accepts _ rfl fits⟩).resolve_right ?_
      exact not_collide_pointingInto maker field _
    · rintro all other query reachable' ⟨found, accepted⟩
      exact (mem_fields_or_collide reachable reachable' fits accepted).imp_left (all _)

/-- The number of a record is compared to a date: cursors into the dates accept it. -/
theorem Reachable.exists_reaches_of_creation :
    (byCreation 2).Reachable .standard ∧ pageOne ≤ (Position.mk "5" 2).page ∧
      ∃ token, (byCreation 2).Reaches ⟨"5", 2⟩ token ∧ token.utf8ByteSize ≤ 8192 ∧
        (byCreation 2).cursorField = "id" ∧
        ∃ (other : Settings) (query : Query), query.Reachable other ∧
          query.cursorField = "gmt_create" ∧ (∃ found, (query.resolve token).outcome = .ok found) ∧
          ¬Collide (signedText (byCreation 2).shape "5@2") (signedText query.shape "5@2") := by
  have reachable := byCreation_reachable 2 (by decide) (by decide)
  have positive : pageOne ≤ (Position.mk "5" 2).page := by decide
  obtain ⟨token, reaches⟩ := reachable.exists_reaches positive
  have made : (byCreation 2).mark "5" 2 = token :=
    Except.ok.inj ((tokenFor_some positive (byCreation 2) "5").symm.trans reaches.issued)
  have fits : token.utf8ByteSize ≤ 8192 := by
    rw [← made]
    exact (mark_fits_iff (byCreation 2) ⟨"5", 2⟩).mpr (by decide)
  exact ⟨reachable, positive, token, reaches, fits, rfl,
    (reaches.accepted_iff fits "gmt_create").mpr (by decide)⟩

end Query

end KeysetPaging
