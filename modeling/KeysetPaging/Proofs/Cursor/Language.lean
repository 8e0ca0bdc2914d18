import KeysetPaging.Proofs.Cursor.Token
import KeysetPaging.Proofs.Text.Numeral

/-!
# The language of accepted tokens

What verifying a token comes to depends on what the token spells without the blanks at its ends. It
is accepted exactly if it is the base64 text, in the one spelling that base64 writes, of a signature,
a hash sign, a value, an at sign and a page number, and the signature is the one of the query's shape
and of all that stands behind the hash sign. Only the page number has more than one spelling. Faults
of the payload are told to nobody who has not signed it.
-/

namespace KeysetPaging

namespace SignedPayload

/-- A token without the blanks at its ends. -/
def trimmed (token : String) : String :=
  String.ofList (Text.trim token.toList)

theorem ofText_eq_ok_iff {text : String} {signed : SignedPayload} :
    ofText text = .ok signed ↔
      '#' ∉ signed.signature.toList ∧ text = signed.signature ++ "#" ++ signed.payload := by
  constructor
  · intro read
    unfold ofText at read
    split at read
    · rename_i signature payload cut
      obtain ⟨whole, free⟩ := Text.splitFirst?_eq_some cut
      obtain rfl := Except.ok.inj read
      refine ⟨by rwa [String.toList_ofList], String.toList_inj.mp ?_⟩
      simp [whole]
    · cases read
  · rintro ⟨free, rfl⟩
    exact ofText_append free signed.payload

theorem ofTrimmed_eq_ok_iff {token : String} {signed : SignedPayload} :
    ofTrimmed token = .ok signed ↔
      '#' ∉ signed.signature.toList ∧ token.utf8ByteSize ≤ tokenLimit ∧ token = signed.token := by
  constructor
  · intro read
    unfold ofTrimmed at read
    split at read
    · cases read
    · split at read
      · cases read
      · rename_i fits
        split at read
        · cases read
        · rename_i bytes decoded
          split at read
          · cases read
          · rename_i text spelled
            obtain ⟨free, rfl⟩ := ofText_eq_ok_iff.mp read
            refine ⟨free, Nat.not_lt.mp fits, String.toList_inj.mp ?_⟩
            rw [toList_token, Text.ofUtf8?_eq_some_iff.mp spelled]
            exact Text.Base64.decode?_eq_some_iff.mp decoded
  · rintro ⟨free, fits, rfl⟩
    have read := ofToken_token free fits
    rwa [ofToken, trim_token, String.ofList_toList] at read

/-- A token is read as what its trimmed text is the one spelling of. -/
theorem ofToken_eq_ok_iff {token : String} {signed : SignedPayload} :
    ofToken token = .ok signed ↔
      '#' ∉ signed.signature.toList ∧ (trimmed token).utf8ByteSize ≤ tokenLimit ∧
        trimmed token = signed.token :=
  ofTrimmed_eq_ok_iff

theorem ofText_fault {text : String} {fault : TokenFault} (read : ofText text = .error fault) :
    fault = .noSignature := by
  unfold ofText at read
  split at read
  · cases read
  · exact (Except.error.inj read).symm

/-- The faults that are found before the payload is looked into. -/
theorem ofToken_fault {token : String} {fault : TokenFault} (read : ofToken token = .error fault) :
    fault = .empty ∨ (∃ length limit, fault = .tooLong length limit) ∨ fault = .notBase64 ∨
      fault = .notUtf8 ∨ fault = .noSignature := by
  unfold ofToken ofTrimmed at read
  split at read
  · exact Or.inl (Except.error.inj read).symm
  · split at read
    · exact Or.inr (Or.inl ⟨_, _, (Except.error.inj read).symm⟩)
    · split at read
      · exact Or.inr (Or.inr (Or.inl (Except.error.inj read).symm))
      · split at read
        · exact Or.inr (Or.inr (Or.inr (Or.inl (Except.error.inj read).symm)))
        · exact Or.inr (Or.inr (Or.inr (Or.inr (ofText_fault read))))

end SignedPayload

namespace Position

theorem page?_eq_some_iff {text : List Char} {page : UInt32} :
    page? text = some page ↔ pageOne ≤ page ∧ Text.Numeral.Spells text page.toNat := by
  unfold page?
  rw [Option.bind_eq_bind, Option.bind_eq_some_iff]
  constructor
  · rintro ⟨number, read, kept⟩
    obtain ⟨word, positive⟩ := Option.filter_eq_some_iff.mp kept
    have same : number = page.toNat := by
      exact_mod_cast Text.Numeral.word32?_eq_some_iff.mp word
    rw [same] at read
    exact ⟨of_decide_eq_true positive, Text.Numeral.unsigned?_eq_some_iff.mp read⟩
  · rintro ⟨positive, spelled⟩
    refine ⟨page.toNat, Text.Numeral.unsigned?_eq_some_iff.mpr spelled, ?_⟩
    rw [Text.Numeral.word32?_toNat]
    exact Option.filter_some_pos (decide_eq_true positive)

theorem at_not_mem_of_spells {text : List Char} {number : Nat}
    (spelled : Text.Numeral.Spells text number) : '@' ∉ text := by
  obtain ⟨sign, zeros, signs, rfl⟩ := spelled
  intro member
  rcases List.mem_append.mp member with front | digit
  · rcases List.mem_append.mp front with sign | zero
    · rcases signs with rfl | rfl <;> exact absurd sign (by decide)
    · exact absurd (List.mem_replicate.mp zero).2 (by decide)
  · exact absurd (Text.Numeral.isDigit_of_mem_toDigits digit) (by decide)

/-- What a payload with an at sign is read as. -/
theorem ofPayload_append {value raw : String} (free : '@' ∉ raw.toList) :
    ofPayload (value ++ "@" ++ raw) =
      match page? raw.toList with
      | some page => .ok ⟨value, page⟩
      | none => .error (.badPage raw) := by
  have parts : (value ++ "@" ++ raw).toList = value.toList ++ '@' :: raw.toList := by simp
  cases found : page? raw.toList with
  | some page =>
      simp only [ofPayload, parts, Text.splitLast?_append free, String.ofList_toList, found]
  | none => simp only [ofPayload, parts, Text.splitLast?_append free, String.ofList_toList, found]

theorem exists_append_of_at {payload : String} (found : '@' ∈ payload.toList) :
    ∃ value raw : String, payload = value ++ "@" ++ raw ∧ '@' ∉ raw.toList := by
  cases cut : Text.splitLast? '@' payload.toList with
  | none => exact absurd found (Text.splitLast?_eq_none_iff.mp cut)
  | some parts =>
      obtain ⟨whole, free⟩ := Text.splitLast?_eq_some cut
      refine ⟨String.ofList parts.1, String.ofList parts.2, String.toList_inj.mp ?_, ?_⟩
      · simp [whole]
      · rwa [String.toList_ofList]

theorem ofPayload_eq_noPage_iff {payload : String} :
    ofPayload payload = .error .noPage ↔ '@' ∉ payload.toList := by
  rw [← Text.splitLast?_eq_none_iff, ofPayload]
  cases cut : Text.splitLast? '@' payload.toList with
  | none => simp
  | some parts => cases number : page? parts.2 <;> simp [number]

theorem ofPayload_eq_ok_iff {payload : String} {position : Position} :
    ofPayload payload = .ok position ↔ pageOne ≤ position.page ∧
      ∃ digits : String, Text.Numeral.Spells digits.toList position.page.toNat ∧
        payload = position.value ++ "@" ++ digits := by
  constructor
  · intro read
    have found : '@' ∈ payload.toList := by
      refine Classical.byContradiction fun free => ?_
      rw [ofPayload_eq_noPage_iff.mpr free] at read
      cases read
    obtain ⟨value, raw, rfl, free⟩ := exists_append_of_at found
    rw [ofPayload_append free] at read
    split at read
    · rename_i page number
      obtain rfl := Except.ok.inj read
      obtain ⟨positive, spelled⟩ := page?_eq_some_iff.mp number
      exact ⟨positive, raw, spelled, rfl⟩
    · cases read
  · rintro ⟨positive, digits, spelled, rfl⟩
    rw [ofPayload_append (at_not_mem_of_spells spelled),
      page?_eq_some_iff.mpr ⟨positive, spelled⟩]

theorem ofPayload_eq_badPage_iff {payload raw : String} :
    ofPayload payload = .error (.badPage raw) ↔ '@' ∉ raw.toList ∧
      (∀ page : UInt32, pageOne ≤ page → ¬Text.Numeral.Spells raw.toList page.toNat) ∧
      ∃ value, payload = value ++ "@" ++ raw := by
  constructor
  · intro read
    have found : '@' ∈ payload.toList := by
      refine Classical.byContradiction fun free => ?_
      rw [ofPayload_eq_noPage_iff.mpr free] at read
      cases read
    obtain ⟨value, other, rfl, free⟩ := exists_append_of_at found
    rw [ofPayload_append free] at read
    split at read
    · cases read
    · rename_i none
      obtain rfl := TokenFault.badPage.inj (Except.error.inj read)
      refine ⟨free, fun page positive spelled => ?_, value, rfl⟩
      rw [page?_eq_some_iff.mpr ⟨positive, spelled⟩] at none
      cases none
  · rintro ⟨free, unspelled, value, rfl⟩
    rw [ofPayload_append free]
    cases number : page? raw.toList with
    | none => rfl
    | some page =>
        obtain ⟨positive, spelled⟩ := page?_eq_some_iff.mp number
        exact absurd spelled (unspelled page positive)

end Position

namespace Query

theorem outcome_resolve (query : Query) (token : String) :
    (query.resolve token).outcome = query.read token := by
  unfold resolve
  cases query.read token <;> rfl

/-- What is made of a token once it is known what it carries. -/
def judge (query : Query) (signed : SignedPayload) : Except Fault Position :=
  if signed.isSignedFor query.shape then (Position.ofPayload signed.payload).mapError .token
  else .error .signature

/-- A result that no fault of the token's form accounts for comes from what the token carries. -/
theorem outcome_eq_iff {query : Query} {token : String} {result : Except Fault Position}
    (formed : ∀ fault, SignedPayload.ofToken token = .error fault → result ≠ .error (.token fault)) :
    (query.resolve token).outcome = result ↔
      ∃ signed, SignedPayload.ofToken token = .ok signed ∧ query.judge signed = result := by
  rw [outcome_resolve, read]
  cases unpacked : SignedPayload.ofToken token with
  | error fault =>
      have other := formed fault unpacked
      simp [Ne.symm other]
  | ok signed => simp [judge]

/-- A token that is not the query's own is refused; of its own it reads the payload. -/
theorem judge_eq_iff {query : Query} {signed : SignedPayload} {result : Except Fault Position} :
    query.judge signed = result ↔
      sign query.shape signed.payload = signed.signature ∧
          (Position.ofPayload signed.payload).mapError .token = result ∨
        sign query.shape signed.payload ≠ signed.signature ∧ result = .error .signature := by
  rw [judge, Ne, ← SignedPayload.isSignedFor_iff]
  by_cases own : signed.isSignedFor query.shape = true
  · simp [own]
  · simp [own, eq_comm]

theorem judge_eq_ok_iff {query : Query} {signed : SignedPayload} {position : Position} :
    query.judge signed = .ok position ↔ sign query.shape signed.payload = signed.signature ∧
      Position.ofPayload signed.payload = .ok position := by
  rw [judge_eq_iff]
  cases Position.ofPayload signed.payload <;> simp [Except.mapError]

/-- A position that a token is accepted for has a page number. -/
theorem positive_of_resolve {query : Query} {token : String} {position : Position}
    (accepted : (query.resolve token).outcome = .ok position) : pageOne ≤ position.page := by
  have formed : ∀ fault, SignedPayload.ofToken token = .error fault →
      (.ok position : Except Fault Position) ≠ .error (.token fault) := fun _ _ => nofun
  obtain ⟨signed, -, judged⟩ := (outcome_eq_iff formed).mp accepted
  exact (Position.ofPayload_eq_ok_iff.mp (judge_eq_ok_iff.mp judged).2).1

theorem judge_eq_signature_iff {query : Query} {signed : SignedPayload} :
    query.judge signed = .error .signature ↔
      signed.signature ≠ sign query.shape signed.payload := by
  rw [judge_eq_iff]
  cases Position.ofPayload signed.payload <;> simp [Except.mapError, eq_comm]

theorem judge_eq_token_iff {query : Query} {signed : SignedPayload} {fault : TokenFault} :
    query.judge signed = .error (.token fault) ↔
      sign query.shape signed.payload = signed.signature ∧
        Position.ofPayload signed.payload = .error fault := by
  rw [judge_eq_iff]
  cases Position.ofPayload signed.payload <;> simp [Except.mapError]

/-- A token that carries a payload under the query's own signature of it. -/
theorem exists_own_iff (query : Query) (token : String) (holds : String → Prop) :
    (∃ signed, SignedPayload.ofToken token = .ok signed ∧
        sign query.shape signed.payload = signed.signature ∧ holds signed.payload) ↔
      (SignedPayload.trimmed token).utf8ByteSize ≤ tokenLimit ∧ ∃ payload, holds payload ∧
        SignedPayload.trimmed token = (SignedPayload.ofPayload query.shape payload).token := by
  constructor
  · rintro ⟨signed, unpacked, own, held⟩
    obtain ⟨-, fits, spelled⟩ := SignedPayload.ofToken_eq_ok_iff.mp unpacked
    refine ⟨fits, signed.payload, held, ?_⟩
    rw [SignedPayload.ofPayload, own]
    exact spelled
  · rintro ⟨fits, payload, held, spelled⟩
    refine ⟨SignedPayload.ofPayload query.shape payload, ?_, rfl, held⟩
    exact SignedPayload.ofToken_eq_ok_iff.mpr ⟨hash_not_mem_sign _ _, fits, spelled⟩

/-- A fault that no token has by its form is one of a payload that the query has signed. -/
theorem resolve_eq_token_iff {query : Query} {token : String} {fault : TokenFault}
    (formed : SignedPayload.ofToken token ≠ .error fault) :
    (query.resolve token).outcome = .error (.token fault) ↔
      (SignedPayload.trimmed token).utf8ByteSize ≤ tokenLimit ∧
        ∃ payload, Position.ofPayload payload = .error fault ∧
          SignedPayload.trimmed token = (SignedPayload.ofPayload query.shape payload).token := by
  have other : ∀ fault', SignedPayload.ofToken token = .error fault' →
      (.error (.token fault) : Except Fault Position) ≠ .error (.token fault') := by
    intro fault' failed same
    obtain rfl := Fault.token.inj (Except.error.inj same)
    exact formed failed
  rw [outcome_eq_iff other]
  simp only [judge_eq_token_iff]
  exact exists_own_iff query token fun payload => Position.ofPayload payload = .error fault

/-- What verifying a token comes to, by what the token spells. Acceptance and rejection are
characterised by the text of the token alone, and whatever is read of a token has this token, blanks
apart, as its only spelling. -/
structure TokenLanguage (query : Query) (token : String) : Prop where
  accepted_iff : ∀ value page, (query.resolve token).outcome = .ok ⟨value, page⟩ ↔
    (SignedPayload.trimmed token).utf8ByteSize ≤ tokenLimit ∧ pageOne ≤ page ∧
      ∃ digits : String, Text.Numeral.Spells digits.toList page.toNat ∧
        SignedPayload.trimmed token = String.ofList (Text.Base64.encode .standard (Text.utf8
          (sign query.shape (value ++ "@" ++ digits) ++ "#" ++ (value ++ "@" ++ digits))))
  spelled : ∀ signed, SignedPayload.ofToken token = .ok signed →
    SignedPayload.trimmed token = signed.token
  unsigned_iff : (query.resolve token).outcome = .error .signature ↔
    (SignedPayload.trimmed token).utf8ByteSize ≤ tokenLimit ∧
      ∃ signature payload, '#' ∉ signature.toList ∧ signature ≠ sign query.shape payload ∧
        SignedPayload.trimmed token = (SignedPayload.mk signature payload).token
  noPage_iff : (query.resolve token).outcome = .error (.token .noPage) ↔
    (SignedPayload.trimmed token).utf8ByteSize ≤ tokenLimit ∧ ∃ payload, '@' ∉ payload.toList ∧
      SignedPayload.trimmed token = (SignedPayload.ofPayload query.shape payload).token
  badPage_iff : ∀ raw, (query.resolve token).outcome = .error (.token (.badPage raw)) ↔
    (SignedPayload.trimmed token).utf8ByteSize ≤ tokenLimit ∧ ∃ payload,
      ('@' ∉ raw.toList ∧
        (∀ page : UInt32, pageOne ≤ page → ¬Text.Numeral.Spells raw.toList page.toNat) ∧
        ∃ value, payload = value ++ "@" ++ raw) ∧
      SignedPayload.trimmed token = (SignedPayload.ofPayload query.shape payload).token

/-- The verifier of a query accepts exactly one language of tokens. -/
theorem token_language (query : Query) (token : String) : query.TokenLanguage token where
  accepted_iff := by
    intro value page
    have formed : ∀ fault, SignedPayload.ofToken token = .error fault →
        (.ok ⟨value, page⟩ : Except Fault Position) ≠ .error (.token fault) := fun _ _ => nofun
    rw [outcome_eq_iff formed]
    simp only [judge_eq_ok_iff]
    rw [exists_own_iff query token fun payload => Position.ofPayload payload = .ok ⟨value, page⟩]
    simp only [Position.ofPayload_eq_ok_iff]
    constructor
    · rintro ⟨fits, _, ⟨positive, digits, spelled, rfl⟩, same⟩
      exact ⟨fits, positive, digits, spelled, same⟩
    · rintro ⟨fits, positive, digits, spelled, same⟩
      exact ⟨fits, _, ⟨positive, digits, spelled, rfl⟩, same⟩
  spelled := fun _ unpacked => (SignedPayload.ofToken_eq_ok_iff.mp unpacked).2.2
  unsigned_iff := by
    have formed : ∀ fault, SignedPayload.ofToken token = .error fault →
        (.error .signature : Except Fault Position) ≠ .error (.token fault) := fun _ _ => nofun
    rw [outcome_eq_iff formed]
    simp only [judge_eq_signature_iff, SignedPayload.ofToken_eq_ok_iff]
    constructor
    · rintro ⟨⟨signature, payload⟩, ⟨free, fits, same⟩, foreign⟩
      exact ⟨fits, signature, payload, free, foreign, same⟩
    · rintro ⟨fits, signature, payload, free, foreign, same⟩
      exact ⟨⟨signature, payload⟩, ⟨free, fits, same⟩, foreign⟩
  noPage_iff := by
    rw [resolve_eq_token_iff fun failed => by simpa using SignedPayload.ofToken_fault failed]
    simp only [Position.ofPayload_eq_noPage_iff]
  badPage_iff := by
    intro raw
    rw [resolve_eq_token_iff fun failed => by simpa using SignedPayload.ofToken_fault failed]
    simp only [Position.ofPayload_eq_badPage_iff]

end Query

end KeysetPaging
