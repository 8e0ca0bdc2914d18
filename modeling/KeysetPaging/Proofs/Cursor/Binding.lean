import KeysetPaging.Proofs.Cursor.Token
import KeysetPaging.Proofs.Query.Reachable
import KeysetPaging.Proofs.Query.Shape

/-!
# What a token is bound to

A token that was made for one query verifies for exactly the queries that ask for the same pages, and
its signature verifies for no payload but its own. The one exception is a pair of different texts
with one digest, and the texts are named.
-/

namespace KeysetPaging

namespace Query

/-- A token whose signature belongs elsewhere is rejected for its signature. -/
theorem resolve_of_not_signed {signature payload : String} (free : '#' ∉ signature.toList)
    (fits : (SignedPayload.mk signature payload).token.utf8ByteSize ≤ tokenLimit) {query : Query}
    (foreign : sign query.shape payload ≠ signature) :
    query.resolve (SignedPayload.mk signature payload).token =
      ⟨.error .signature, [.rejected .cursorSignature]⟩ := by
  have unsigned : ¬(SignedPayload.mk signature payload).isSignedFor query.shape = true :=
    fun own => foreign ((SignedPayload.isSignedFor_iff _ _ _).mp own)
  apply resolve_of_error
  rw [read_token free fits, if_neg unsigned]

theorem resolve_mark_of_agrees {maker query : Query} (agrees : maker.Agrees query)
    (ordered : maker.order.terms ≠ []) (ordered' : query.order.terms ≠ []) {value : String}
    {page : UInt32} (positive : pageOne ≤ page)
    (fits : (maker.mark value page).utf8ByteSize ≤ tokenLimit) :
    query.resolve (maker.mark value page) = ⟨.ok ⟨value, page⟩, [.verified]⟩ :=
  resolve_mark ((shape_eq_iff_agrees ordered ordered').mpr agrees).symm positive fits

theorem resolve_mark_of_not_agrees {maker query : Query} (differ : ¬maker.Agrees query)
    (ordered : maker.order.terms ≠ []) (ordered' : query.order.terms ≠ []) {value : String}
    {page : UInt32} (fits : (maker.mark value page).utf8ByteSize ≤ tokenLimit) :
    query.resolve (maker.mark value page) = ⟨.error .signature, [.rejected .cursorSignature]⟩ ∨
      Collide (signedText maker.shape (Position.payload ⟨value, page⟩))
        (signedText query.shape (Position.payload ⟨value, page⟩)) := by
  by_cases same : sign maker.shape (Position.payload ⟨value, page⟩) =
      sign query.shape (Position.payload ⟨value, page⟩)
  · rcases eq_or_collide_of_sign_eq same with texts | collide
    · exact absurd ((shape_eq_iff_agrees ordered ordered').mp (signedText_inj_shape texts)) differ
    · exact Or.inr collide
  · exact Or.inl (resolve_of_not_signed (hash_not_mem_sign maker.shape _) fits (Ne.symm same))

theorem resolve_of_other_payload {query : Query} {payload other : String} (differ : other ≠ payload)
    (fits : (SignedPayload.mk (sign query.shape payload) other).token.utf8ByteSize ≤ tokenLimit) :
    query.resolve (SignedPayload.mk (sign query.shape payload) other).token =
        ⟨.error .signature, [.rejected .cursorSignature]⟩ ∨
      Collide (signedText query.shape payload) (signedText query.shape other) := by
  by_cases same : sign query.shape payload = sign query.shape other
  · rcases eq_or_collide_of_sign_eq same with texts | collide
    · exact absurd (signedText_inj_payload texts).symm differ
    · exact Or.inr collide
  · exact Or.inl (resolve_of_not_signed (hash_not_mem_sign query.shape payload) fits (Ne.symm same))

/-- A signature that the maker's tokens for a position carry, and that binds them: they verify for
the queries that ask for the same pages, and it verifies for the maker with no other payload, two
texts with one digest apart. -/
structure Binds (maker query : Query) (position : Position) (signature : String) : Prop where
  issued : maker.tokenFor (some position.value) position.page =
    .ok (SignedPayload.mk signature position.payload).token
  accepted : (SignedPayload.mk signature position.payload).token.utf8ByteSize ≤ tokenLimit →
    maker.Agrees query →
      query.resolve (SignedPayload.mk signature position.payload).token =
        ⟨.ok position, [.verified]⟩
  rejected : (SignedPayload.mk signature position.payload).token.utf8ByteSize ≤ tokenLimit →
    ¬maker.Agrees query →
      query.resolve (SignedPayload.mk signature position.payload).token =
          ⟨.error .signature, [.rejected .cursorSignature]⟩ ∨
        Collide (signedText maker.shape position.payload) (signedText query.shape position.payload)
  confined : ∀ payload, payload ≠ position.payload →
    (SignedPayload.mk signature payload).token.utf8ByteSize ≤ tokenLimit →
      maker.resolve (SignedPayload.mk signature payload).token =
          ⟨.error .signature, [.rejected .cursorSignature]⟩ ∨
        Collide (signedText maker.shape position.payload) (signedText maker.shape payload)

/-- Tokens are bound to what their query asks for and to their payload. -/
theorem exists_binds {settings other : Settings} {maker query : Query}
    (reachableMaker : maker.Reachable settings) (reachableQuery : query.Reachable other)
    {position : Position} (positive : pageOne ≤ position.page) :
    ∃ signature, maker.Binds query position signature := by
  have ordered := reachableMaker.wellFormed.terms_ne_nil
  have ordered' := reachableQuery.wellFormed.terms_ne_nil
  exact ⟨sign maker.shape position.payload, {
    issued := tokenFor_some positive maker position.value
    accepted := fun fits agrees => resolve_mark_of_agrees agrees ordered ordered' positive fits
    rejected := fun fits differ => resolve_mark_of_not_agrees differ ordered ordered' fits
    confined := fun _ differ fits => resolve_of_other_payload differ fits }⟩

/-- A filter entry that is named like the page size neither hides it nor poses as it. -/
theorem exists_binds_of_size_in_filter :
    (latest 2 [("query_size", .integer 3)]).Reachable .standard ∧
      (latest 3 []).Reachable .standard ∧ pageOne ≤ (Position.mk "a@b#c" 7).page ∧
      ¬(latest 2 [("query_size", .integer 3)]).Agrees (latest 3 []) ∧
      ∃ signature,
        (latest 2 [("query_size", .integer 3)]).Binds (latest 3 []) ⟨"a@b#c", 7⟩ signature := by
  have reachableMaker := latest_reachable 2 (by decide) (by decide) [("query_size", .integer 3)]
  have reachableQuery := latest_reachable 3 (by decide) (by decide) []
  have positive : pageOne ≤ (Position.mk "a@b#c" 7).page := by decide
  refine ⟨reachableMaker, reachableQuery, positive, ?_,
    exists_binds reachableMaker reachableQuery positive⟩
  intro agrees
  exact absurd agrees.size_eq (by decide)

end Query

end KeysetPaging
