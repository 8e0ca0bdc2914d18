import KeysetPaging.Digest.Sha256
import KeysetPaging.Fault
import KeysetPaging.Text.Base64
import KeysetPaging.Text.Blank
import KeysetPaging.Text.Split
import KeysetPaging.Text.Utf8

/-!
# Tokens

A token is the standard base64 of a signature, a hash sign and a payload. The signature is the
digest of a query's shape, a hash sign and the payload, in base64 for addresses without padding; it
guards against mistakes and not against forgery. A token from outside is trimmed and bounded in
length before it is read, and splits at its first hash sign, which no signature contains.
-/

namespace KeysetPaging

/-- The greatest number of bytes in a token that is read. -/
def tokenLimit : Nat := 8192

/-- The signature of a payload under the shape of a query. -/
def sign (shape payload : String) : String :=
  String.ofList
    (Text.Base64.encode .address (Digest.Sha256.digest (Text.utf8 (shape ++ "#" ++ payload))))

/-- What a token carries. -/
structure SignedPayload where
  signature : String
  payload : String
  deriving DecidableEq

namespace SignedPayload

/-- The payload with its signature under the shape of a query. -/
def ofPayload (shape payload : String) : SignedPayload :=
  ⟨sign shape payload, payload⟩

def token (signed : SignedPayload) : String :=
  String.ofList
    (Text.Base64.encode .standard (Text.utf8 (signed.signature ++ "#" ++ signed.payload)))

/-- Splits the text that a token spells. -/
def ofText (text : String) : Except TokenFault SignedPayload :=
  match Text.splitFirst? '#' text.toList with
  | some (signature, payload) => .ok ⟨String.ofList signature, String.ofList payload⟩
  | none => .error .noSignature

/-- Reads a trimmed token. -/
def ofTrimmed (token : String) : Except TokenFault SignedPayload :=
  if token.isEmpty then .error .empty
  else if tokenLimit < token.utf8ByteSize then .error (.tooLong token.utf8ByteSize tokenLimit)
  else
    match Text.Base64.decode? token.toList with
    | none => .error .notBase64
    | some bytes =>
        match Text.ofUtf8? bytes with
        | none => .error .notUtf8
        | some text => ofText text

def ofToken (token : String) : Except TokenFault SignedPayload :=
  ofTrimmed (String.ofList (Text.trim token.toList))

/-- Whether the signature is the one under the shape of a query. -/
def isSignedFor (signed : SignedPayload) (shape : String) : Bool :=
  sign shape signed.payload == signed.signature

end SignedPayload

end KeysetPaging
