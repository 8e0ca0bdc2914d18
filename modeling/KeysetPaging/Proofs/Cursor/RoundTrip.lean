import KeysetPaging.Proofs.Cursor.Token
import KeysetPaging.Proofs.Query.Reachable
import KeysetPaging.Proofs.Text.Numeral
import Mathlib.Algebra.Order.Floor.Div

/-!
# Tokens of any length

Every value has a token with every page number, and the length of the token is known from the number
of bytes and digits that go into it. Writing has no bound and reading has one: a token gives its
position back exactly as long as it may be read, and a longer one is refused for its length. Neither
blanks around the token nor the cursors that a query carries make a difference to this.
-/

namespace KeysetPaging

namespace Position

/-- The bytes of the value and the digits of the page number. -/
def width (position : Position) : Nat :=
  position.value.utf8ByteSize + (Nat.toDigits 10 position.page.toNat).length

theorem utf8ByteSize_payload (position : Position) :
    position.payload.utf8ByteSize = position.width + 1 := by
  rw [payload, String.utf8ByteSize_append, String.utf8ByteSize_append,
    Text.Numeral.utf8ByteSize_repr, width]
  change _ + 1 + _ = _
  omega

end Position

namespace SignedPayload

theorem ofToken_append {before after : String} (blankBefore : ∀ c ∈ before.toList, Text.isBlank c = true)
    (blankAfter : ∀ c ∈ after.toList, Text.isBlank c = true) (token : String) :
    ofToken (before ++ token ++ after) = ofToken token := by
  rw [ofToken, ofToken, String.toList_append, String.toList_append,
    Text.trim_append_append blankBefore blankAfter]

/-- A token that is too long is refused before it is looked into. -/
theorem ofToken_token_of_long {signed : SignedPayload}
    (long : tokenLimit < signed.token.utf8ByteSize) :
    ofToken signed.token = .error (.tooLong signed.token.utf8ByteSize tokenLimit) := by
  rw [ofToken, trim_token, String.ofList_toList, ofTrimmed, token_ne_empty,
    if_neg Bool.false_ne_true, if_pos long]

end SignedPayload

namespace Query

/-- The same query with other cursors. -/
def carrying (query : Query) (prevCursor nextCursor : Option String) : Query :=
  { query with prevCursor, nextCursor }

@[simp] theorem shape_carrying (query : Query) (prevCursor nextCursor : Option String) :
    (query.carrying prevCursor nextCursor).shape = query.shape := rfl

/-- A signature takes 43 bytes and the separators two; three bytes are written as four. -/
theorem utf8ByteSize_mark (query : Query) (position : Position) :
    (query.mark position.value position.page).utf8ByteSize = 4 * ((45 + position.width) ⌈/⌉ 3) := by
  rw [mark, SignedPayload.utf8ByteSize_token, SignedPayload.signature_ofPayload, utf8ByteSize_sign,
    SignedPayload.payload_ofPayload, Position.utf8ByteSize_payload, Nat.ceilDiv_eq_add_pred_div]
  change (43 + 1 + (position.width + 1) + 2) / 3 * 4 = _
  omega

theorem mark_fits_iff (query : Query) (position : Position) :
    (query.mark position.value position.page).utf8ByteSize ≤ tokenLimit ↔ position.width ≤ 6099 := by
  rw [utf8ByteSize_mark, Nat.ceilDiv_eq_add_pred_div, tokenLimit]
  omega

theorem resolve_append {before after : String} (blankBefore : ∀ c ∈ before.toList, Text.isBlank c = true)
    (blankAfter : ∀ c ∈ after.toList, Text.isBlank c = true) (query : Query) (token : String) :
    query.resolve (before ++ token ++ after) = query.resolve token := by
  rw [resolve, resolve, read, read, SignedPayload.ofToken_append blankBefore blankAfter]

theorem resolve_mark_of_long {maker : Query} {value : String} {page : UInt32}
    (long : tokenLimit < (maker.mark value page).utf8ByteSize) (query : Query) :
    query.resolve (maker.mark value page) =
      ⟨.error (.token (.tooLong (maker.mark value page).utf8ByteSize tokenLimit)),
        [.rejected .malformedCursor]⟩ := by
  apply resolve_of_error
  rw [read, mark, SignedPayload.ofToken_token_of_long long]

/-- A token that is accepted for its maker's shape gives its position back. -/
theorem eq_of_resolve_mark {maker query : Query} (shape : query.shape = maker.shape)
    {value : String} {page : UInt32} (positive : pageOne ≤ page) {position : Position}
    (accepted : (query.resolve (maker.mark value page)).outcome = .ok position) :
    position = ⟨value, page⟩ := by
  by_cases fits : (maker.mark value page).utf8ByteSize ≤ tokenLimit
  · rw [resolve_mark shape positive fits] at accepted
    exact (Except.ok.inj accepted).symm
  · rw [resolve_mark_of_long (Nat.lt_of_not_le fits)] at accepted
    cases accepted

/-- What a token gives back, whatever cursors the query carries when it makes and when it reads the
token, and whatever blanks stand around the token. -/
structure ReadsBack (query : Query) (position : Position) (token : String) : Prop where
  issued : ∀ prev next,
    (query.carrying prev next).tokenFor (some position.value) position.page = .ok token
  length_eq : token.utf8ByteSize = 4 * ((45 + position.width) ⌈/⌉ 3)
  fits_iff : token.utf8ByteSize ≤ 8192 ↔ position.width ≤ 6099
  accepted : token.utf8ByteSize ≤ 8192 → ∀ prev next before after,
    (∀ c ∈ before.toList, Text.isBlank c = true) → (∀ c ∈ after.toList, Text.isBlank c = true) →
      (query.carrying prev next).resolve (before ++ token ++ after) = ⟨.ok position, [.verified]⟩
  refused : 8192 < token.utf8ByteSize → ∀ prev next before after,
    (∀ c ∈ before.toList, Text.isBlank c = true) → (∀ c ∈ after.toList, Text.isBlank c = true) →
      (query.carrying prev next).resolve (before ++ token ++ after) =
        ⟨.error (.token (.tooLong token.utf8ByteSize 8192)), [.rejected .malformedCursor]⟩

/-- Every value and page number has a token, and it gives them back unless it is too long. -/
theorem exists_readsBack (query : Query) {position : Position} (positive : pageOne ≤ position.page) :
    ∃ token, query.ReadsBack position token := by
  refine ⟨query.mark position.value position.page, ?_, utf8ByteSize_mark query position,
    mark_fits_iff query position, ?_, ?_⟩
  · intro prev next
    exact tokenFor_some positive (query.carrying prev next) position.value
  · intro fits prev next before after blankBefore blankAfter
    rw [resolve_append blankBefore blankAfter]
    exact resolve_mark (shape_carrying query prev next) positive fits
  · intro long prev next before after blankBefore blankAfter
    rw [resolve_append blankBefore blankAfter]
    exact resolve_mark_of_long long (query.carrying prev next)

theorem width_replicate (count : Nat) {c : Char} (ascii : c.toNat < 128) :
    (Position.mk (String.ofList (List.replicate count c)) 4294967295).width = count + 10 := by
  have single : ∀ d ∈ List.replicate count c, d.toNat < 128 := by
    intro d member
    rwa [(List.mem_replicate.mp member).2]
  have digits : (Nat.toDigits 10 (4294967295 : UInt32).toNat).length = 10 := by decide
  rw [Position.width, Text.utf8ByteSize_ofList_of_ascii single, List.length_replicate, digits]

/-- The longest value that a token for the greatest page number gives back is one byte shorter than
the shortest that it does not, and both consist of separators. -/
theorem exists_readsBack_at_limit :
    pageOne ≤ (Position.mk (String.ofList (List.replicate 6089 '@')) 4294967295).page ∧
      pageOne ≤ (Position.mk (String.ofList (List.replicate 6090 '#')) 4294967295).page ∧
      (∃ token, (latest 2 []).ReadsBack ⟨String.ofList (List.replicate 6089 '@'), 4294967295⟩ token ∧
        token.utf8ByteSize = 8192) ∧
      ∃ token, (latest 2 []).ReadsBack ⟨String.ofList (List.replicate 6090 '#'), 4294967295⟩ token ∧
        token.utf8ByteSize = 8196 := by
  have positive : ∀ value : String, pageOne ≤ (Position.mk value 4294967295).page := fun _ =>
    show pageOne ≤ (4294967295 : UInt32) by decide
  obtain ⟨short, reads⟩ :=
    exists_readsBack (latest 2 []) (positive (String.ofList (List.replicate 6089 '@')))
  obtain ⟨long, refuses⟩ :=
    exists_readsBack (latest 2 []) (positive (String.ofList (List.replicate 6090 '#')))
  refine ⟨positive _, positive _, ⟨short, reads, ?_⟩, long, refuses, ?_⟩
  · rw [reads.length_eq, width_replicate 6089 (by decide)]
    rfl
  · rw [refuses.length_eq, width_replicate 6090 (by decide)]
    rfl

end Query

end KeysetPaging
