import KeysetPaging.Cursor.Binding
import KeysetPaging.Proofs.Text.Base64

/-!
# Tokens read back

Every token that is not too long reads back as what it carries, for the signature holds no hash sign
and the text of a token no blank. What came of reading depends on the signature alone: the payload
is looked into only if the signature is the one of the query's shape. Two signatures are equal
exactly if the signed texts have one digest, so moving a signature elsewhere needs either one text
that is signed for both or two texts with one digest.
-/

namespace KeysetPaging

/-- The text that a signature under a shape is the digest of. -/
def signedText (shape payload : String) : String :=
  shape ++ "#" ++ payload

/-- Two different texts with one digest. -/
structure Collide (first second : String) : Prop where
  differ : first ≠ second
  digest_eq : Digest.Sha256.digest (Text.utf8 first) = Digest.Sha256.digest (Text.utf8 second)

theorem sign_eq_sign_iff {shape payload shape' payload' : String} :
    sign shape payload = sign shape' payload' ↔
      Digest.Sha256.digest (Text.utf8 (signedText shape payload)) =
        Digest.Sha256.digest (Text.utf8 (signedText shape' payload')) := by
  constructor
  · intro same
    exact Text.Base64.encode_address_inj (String.ofList_injective same)
  · intro same
    unfold signedText at same
    rw [sign, sign, same]

/-- Equal signatures stand for one text or for two that collide. -/
theorem eq_or_collide_of_sign_eq {shape payload shape' payload' : String}
    (same : sign shape payload = sign shape' payload') :
    signedText shape payload = signedText shape' payload' ∨
      Collide (signedText shape payload) (signedText shape' payload') := by
  by_cases texts : signedText shape payload = signedText shape' payload'
  · exact Or.inl texts
  · exact Or.inr ⟨texts, sign_eq_sign_iff.mp same⟩

theorem signedText_inj_payload {shape payload payload' : String}
    (same : signedText shape payload = signedText shape payload') : payload = payload' :=
  (String.append_right_inj _).mp same

theorem signedText_inj_shape {shape shape' payload : String}
    (same : signedText shape payload = signedText shape' payload) : shape = shape' := by
  unfold signedText at same
  rw [String.append_assoc, String.append_assoc] at same
  exact (String.append_left_inj _).mp same

theorem hash_not_mem_sign (shape payload : String) : '#' ∉ (sign shape payload).toList := by
  rw [sign, String.toList_ofList]
  exact Text.Base64.hash_not_mem_encode _ _

theorem utf8ByteSize_sign (shape payload : String) : (sign shape payload).utf8ByteSize = 43 := by
  rw [sign, Text.Base64.utf8ByteSize_ofList_encode, Text.Base64.length_encode_address,
    Digest.Sha256.length_digest]

namespace SignedPayload

@[simp] theorem payload_ofPayload (shape payload : String) :
    (ofPayload shape payload).payload = payload := rfl

@[simp] theorem signature_ofPayload (shape payload : String) :
    (ofPayload shape payload).signature = sign shape payload := rfl

theorem isSignedFor_iff (signature payload shape : String) :
    (mk signature payload).isSignedFor shape = true ↔ sign shape payload = signature := by
  rw [isSignedFor, beq_iff_eq]

theorem toList_token (signed : SignedPayload) :
    signed.token.toList =
      Text.Base64.encode .standard (Text.utf8 (signed.signature ++ "#" ++ signed.payload)) := by
  rw [token, String.toList_ofList]

theorem utf8ByteSize_token (signed : SignedPayload) :
    signed.token.utf8ByteSize =
      (signed.signature.utf8ByteSize + 1 + signed.payload.utf8ByteSize + 2) / 3 * 4 := by
  rw [token, Text.Base64.utf8ByteSize_ofList_encode, Text.Base64.length_encode_standard,
    Text.length_utf8, String.utf8ByteSize_append, String.utf8ByteSize_append]
  rfl

theorem token_ne_empty (signed : SignedPayload) : signed.token.isEmpty = false := by
  have size := signed.utf8ByteSize_token
  rw [String.isEmpty, beq_eq_false_iff_ne]
  omega

theorem trim_token (signed : SignedPayload) : Text.trim signed.token.toList = signed.token.toList := by
  refine Text.trim_of_no_blank fun c member => ?_
  rw [toList_token] at member
  exact Text.Base64.isBlank_of_mem_encode member

theorem ofText_append {signature : String} (free : '#' ∉ signature.toList) (payload : String) :
    ofText (signature ++ "#" ++ payload) = .ok ⟨signature, payload⟩ := by
  have parts : (signature ++ "#" ++ payload).toList = signature.toList ++ '#' :: payload.toList := by
    simp
  rw [ofText, parts, Text.splitFirst?_append free]
  simp

/-- A token that is not too long reads back. -/
theorem ofToken_token {signed : SignedPayload} (free : '#' ∉ signed.signature.toList)
    (fits : signed.token.utf8ByteSize ≤ tokenLimit) : ofToken signed.token = .ok signed := by
  rw [ofToken, trim_token, String.ofList_toList, ofTrimmed, token_ne_empty,
    if_neg Bool.false_ne_true, if_neg (Nat.not_lt.mpr fits), toList_token,
    Text.Base64.decode?_encode]
  simp only [Text.ofUtf8?_utf8]
  exact ofText_append free signed.payload

end SignedPayload

namespace Query

/-- The token that marks a value and a page number for a query. -/
def mark (query : Query) (value : String) (page : UInt32) : String :=
  (SignedPayload.ofPayload query.shape (Position.payload ⟨value, page⟩)).token

theorem tokenFor_some {page : UInt32} (positive : pageOne ≤ page) (query : Query) (value : String) :
    query.tokenFor (some value) page = .ok (query.mark value page) := by
  rw [tokenFor]
  exact if_neg (UInt32.not_lt.mpr positive)

theorem eq_mark_of_tokenFor {query : Query} {value? : Option String} {page : UInt32} {token : String}
    (made : query.tokenFor value? page = .ok token) :
    ∃ value, value? = some value ∧ token = query.mark value page := by
  unfold tokenFor at made
  split at made
  · cases made
  · rename_i value
    split at made
    · cases made
    · exact ⟨value, rfl, (Except.ok.inj made).symm⟩

theorem resolve_of_ok {query : Query} {token : String} {position : Position}
    (read : query.read token = .ok position) :
    query.resolve token = ⟨.ok position, [.verified]⟩ := by
  rw [resolve, read]

theorem resolve_of_error {query : Query} {token : String} {fault : Fault}
    (read : query.read token = .error fault) :
    query.resolve token = ⟨.error fault, [.rejected fault.kind]⟩ := by
  rw [resolve, read]

/-- What reading a token with a signature in it comes to. -/
theorem read_token {signed : SignedPayload} (free : '#' ∉ signed.signature.toList)
    (fits : signed.token.utf8ByteSize ≤ tokenLimit) (query : Query) :
    query.read signed.token =
      if signed.isSignedFor query.shape then (Position.ofPayload signed.payload).mapError .token
      else .error .signature := by
  rw [read, SignedPayload.ofToken_token free fits]

/-- A signature of a query's shape and of a position verifies behind the position. -/
theorem resolve_of_signed {query : Query} {signature : String} {position : Position}
    (signed : sign query.shape position.payload = signature) (positive : pageOne ≤ position.page)
    (fits : (SignedPayload.mk signature position.payload).token.utf8ByteSize ≤ tokenLimit) :
    query.resolve (SignedPayload.mk signature position.payload).token =
      ⟨.ok position, [.verified]⟩ := by
  have free : '#' ∉ signature.toList := by
    rw [← signed]
    exact hash_not_mem_sign _ _
  have own := (SignedPayload.isSignedFor_iff signature position.payload query.shape).mpr signed
  apply resolve_of_ok
  rw [read_token free fits, if_pos own, Position.ofPayload_payload positive]
  rfl

/-- A token verifies for every query of the shape that it was made for. -/
theorem resolve_mark {maker query : Query} (shape : query.shape = maker.shape) {value : String}
    {page : UInt32} (positive : pageOne ≤ page)
    (fits : (maker.mark value page).utf8ByteSize ≤ tokenLimit) :
    query.resolve (maker.mark value page) = ⟨.ok ⟨value, page⟩, [.verified]⟩ := by
  refine resolve_of_signed ?_ positive fits
  rw [shape]

end Query

end KeysetPaging
