/-!
# SHA-256

The digest of a sequence of bytes, as FIPS 180-4 defines it: the message is padded to blocks of
sixteen words, each block is mixed into eight chaining words in sixty-four rounds, and the chaining
words are the digest. It always has 32 bytes, and no more than that is said about it here.
-/

namespace KeysetPaging.Digest.Sha256

/-- The eight chaining words. -/
structure Chain where
  a : UInt32
  b : UInt32
  c : UInt32
  d : UInt32
  e : UInt32
  f : UInt32
  g : UInt32
  h : UInt32

/-- The first 32 bits of the fractional parts of the square roots of the first eight primes. -/
def start : Chain :=
  ⟨0x6a09e667, 0xbb67ae85, 0x3c6ef372, 0xa54ff53a, 0x510e527f, 0x9b05688c, 0x1f83d9ab, 0x5be0cd19⟩

/-- The first 32 bits of the fractional parts of the cube roots of the first sixty-four primes. -/
def roundWords : List UInt32 :=
  [0x428a2f98, 0x71374491, 0xb5c0fbcf, 0xe9b5dba5, 0x3956c25b, 0x59f111f1, 0x923f82a4, 0xab1c5ed5,
   0xd807aa98, 0x12835b01, 0x243185be, 0x550c7dc3, 0x72be5d74, 0x80deb1fe, 0x9bdc06a7, 0xc19bf174,
   0xe49b69c1, 0xefbe4786, 0x0fc19dc6, 0x240ca1cc, 0x2de92c6f, 0x4a7484aa, 0x5cb0a9dc, 0x76f988da,
   0x983e5152, 0xa831c66d, 0xb00327c8, 0xbf597fc7, 0xc6e00bf3, 0xd5a79147, 0x06ca6351, 0x14292967,
   0x27b70a85, 0x2e1b2138, 0x4d2c6dfc, 0x53380d13, 0x650a7354, 0x766a0abb, 0x81c2c92e, 0x92722c85,
   0xa2bfe8a1, 0xa81a664b, 0xc24b8b70, 0xc76c51a3, 0xd192e819, 0xd6990624, 0xf40e3585, 0x106aa070,
   0x19a4c116, 0x1e376c08, 0x2748774c, 0x34b0bcb5, 0x391c0cb3, 0x4ed8aa4a, 0x5b9cca4f, 0x682e6ff3,
   0x748f82ee, 0x78a5636f, 0x84c87814, 0x8cc70208, 0x90befffa, 0xa4506ceb, 0xbef9a3f7, 0xc67178f2]

/-- Rotates a word to the right. -/
def rotate (word amount : UInt32) : UInt32 :=
  (word >>> amount) ||| (word <<< (32 - amount))

/-- One round with a round word and a message word. -/
def Chain.round (chain : Chain) (roundWord messageWord : UInt32) : Chain :=
  let choice := (chain.e &&& chain.f) ^^^ ((~~~chain.e) &&& chain.g)
  let majority := (chain.a &&& chain.b) ^^^ (chain.a &&& chain.c) ^^^ (chain.b &&& chain.c)
  let mixE := rotate chain.e 6 ^^^ rotate chain.e 11 ^^^ rotate chain.e 25
  let mixA := rotate chain.a 2 ^^^ rotate chain.a 13 ^^^ rotate chain.a 22
  let first := chain.h + mixE + choice + roundWord + messageWord
  let second := mixA + majority
  ⟨first + second, chain.a, chain.b, chain.c, chain.d + first, chain.e, chain.f, chain.g⟩

/-- Adds two chains word by word. -/
def Chain.add (left right : Chain) : Chain :=
  ⟨left.a + right.a, left.b + right.b, left.c + right.c, left.d + right.d,
    left.e + right.e, left.f + right.f, left.g + right.g, left.h + right.h⟩

/-- The word that the message schedule puts sixteen places behind the first of the window. -/
def scheduled (window : List UInt32) : UInt32 :=
  let early := window.getD 1 0
  let late := window.getD 14 0
  let mixEarly := rotate early 7 ^^^ rotate early 18 ^^^ (early >>> 3)
  let mixLate := rotate late 17 ^^^ rotate late 19 ^^^ (late >>> 10)
  window.headD 0 + mixEarly + window.getD 9 0 + mixLate

/-- Runs the rounds over a window of the next sixteen words of the message schedule. -/
def rounds : List UInt32 → List UInt32 → Chain → Chain
  | [], _, chain => chain
  | roundWord :: rest, window, chain =>
      rounds rest (window.tail ++ [scheduled window]) (chain.round roundWord (window.headD 0))

/-- Mixes one block of sixteen words into the chain. -/
def Chain.absorb (chain : Chain) (block : List UInt32) : Chain :=
  chain.add (rounds roundWords block chain)

/-- The word of four bytes, the most significant first. -/
def word (a b c d : UInt8) : UInt32 :=
  (a.toUInt32 <<< 24) ||| (b.toUInt32 <<< 16) ||| (c.toUInt32 <<< 8) ||| d.toUInt32

/-- The words of a sequence of bytes whose length is a multiple of four. -/
def words : List UInt8 → List UInt32
  | a :: b :: c :: d :: rest => word a b c d :: words rest
  | _ => []

/-- The bytes of a word, the most significant first. -/
def bytes (word : UInt32) : List UInt8 :=
  [(word >>> 24).toUInt8, (word >>> 16).toUInt8, (word >>> 8).toUInt8, word.toUInt8]

/-- The message, a one bit, zeros, and the length in bits, to a multiple of 64 bytes. -/
def padded (message : List UInt8) : List UInt8 :=
  let length := message.length
  let zeros := (119 - length % 64) % 64
  let bits := UInt64.ofNat (length * 8)
  message ++ (0x80 :: List.replicate zeros (0 : UInt8)) ++
    bytes (bits >>> 32).toUInt32 ++ bytes bits.toUInt32

/-- Mixes the given number of blocks into the chain. -/
def absorbBlocks : Nat → List UInt32 → Chain → Chain
  | 0, _, chain => chain
  | blocks + 1, message, chain =>
      absorbBlocks blocks (message.drop 16) (chain.absorb (message.take 16))

/-- The bytes of the chaining words. -/
def Chain.bytes (chain : Chain) : List UInt8 :=
  Sha256.bytes chain.a ++ Sha256.bytes chain.b ++ Sha256.bytes chain.c ++ Sha256.bytes chain.d ++
    Sha256.bytes chain.e ++ Sha256.bytes chain.f ++ Sha256.bytes chain.g ++ Sha256.bytes chain.h

/-- The digest of a message. -/
def digest (message : List UInt8) : List UInt8 :=
  let stream := words (padded message)
  (absorbBlocks (stream.length / 16) stream start).bytes

theorem length_digest (message : List UInt8) : (digest message).length = 32 := rfl

end KeysetPaging.Digest.Sha256
