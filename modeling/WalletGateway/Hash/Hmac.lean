import WalletGateway.Numeric.Positional

/-!
# Digests

The SHA-256 digest of a byte string, and the HMAC construction over it for keys of one block.

The schedule of a block is kept as a window of sixteen words: each round uses the first word and
appends the next one.
-/

namespace WalletGateway.Sha256

/-- The eight words of the running digest. -/
structure State where
  a : UInt32
  b : UInt32
  c : UInt32
  d : UInt32
  e : UInt32
  f : UInt32
  g : UInt32
  h : UInt32
  deriving DecidableEq

/-- The digest of nothing. -/
def initial : State :=
  ⟨0x6a09e667, 0xbb67ae85, 0x3c6ef372, 0xa54ff53a,
    0x510e527f, 0x9b05688c, 0x1f83d9ab, 0x5be0cd19⟩

/-- One constant per round. -/
def constants : List UInt32 :=
  [0x428a2f98, 0x71374491, 0xb5c0fbcf, 0xe9b5dba5, 0x3956c25b, 0x59f111f1, 0x923f82a4, 0xab1c5ed5,
    0xd807aa98, 0x12835b01, 0x243185be, 0x550c7dc3, 0x72be5d74, 0x80deb1fe, 0x9bdc06a7, 0xc19bf174,
    0xe49b69c1, 0xefbe4786, 0x0fc19dc6, 0x240ca1cc, 0x2de92c6f, 0x4a7484aa, 0x5cb0a9dc, 0x76f988da,
    0x983e5152, 0xa831c66d, 0xb00327c8, 0xbf597fc7, 0xc6e00bf3, 0xd5a79147, 0x06ca6351, 0x14292967,
    0x27b70a85, 0x2e1b2138, 0x4d2c6dfc, 0x53380d13, 0x650a7354, 0x766a0abb, 0x81c2c92e, 0x92722c85,
    0xa2bfe8a1, 0xa81a664b, 0xc24b8b70, 0xc76c51a3, 0xd192e819, 0xd6990624, 0xf40e3585, 0x106aa070,
    0x19a4c116, 0x1e376c08, 0x2748774c, 0x34b0bcb5, 0x391c0cb3, 0x4ed8aa4a, 0x5b9cca4f, 0x682e6ff3,
    0x748f82ee, 0x78a5636f, 0x84c87814, 0x8cc70208, 0x90befffa, 0xa4506ceb, 0xbef9a3f7, 0xc67178f2]

/-- The word turned right. -/
def rotate (word amount : UInt32) : UInt32 :=
  (word >>> amount) ||| (word <<< (32 - amount))

/-- The word that follows a window of sixteen. -/
def extend (window : List UInt32) : UInt32 :=
  let early := window.getD 1 0
  let late := window.getD 14 0
  let sigma0 := rotate early 7 ^^^ rotate early 18 ^^^ (early >>> 3)
  let sigma1 := rotate late 17 ^^^ rotate late 19 ^^^ (late >>> 10)
  window.getD 0 0 + sigma0 + window.getD 9 0 + sigma1

/-- One round. -/
def round (s : State) (constant word : UInt32) : State :=
  let sum1 := rotate s.e 6 ^^^ rotate s.e 11 ^^^ rotate s.e 25
  let choice := (s.e &&& s.f) ^^^ ((~~~ s.e) &&& s.g)
  let first := s.h + sum1 + choice + constant + word
  let sum0 := rotate s.a 2 ^^^ rotate s.a 13 ^^^ rotate s.a 22
  let majority := (s.a &&& s.b) ^^^ (s.a &&& s.c) ^^^ (s.b &&& s.c)
  ⟨first + sum0 + majority, s.a, s.b, s.c, s.d + first, s.e, s.f, s.g⟩

/-- All rounds on the words of a block. -/
def rounds (state : State) (words : List UInt32) : State :=
  (constants.foldl (fun (state, window) constant =>
    (round state constant (window.headD 0), window.tail ++ [extend window])) (state, words)).1

/-- The digest after one more block. -/
def compress (s : State) (words : List UInt32) : State :=
  let r := rounds s words
  ⟨s.a + r.a, s.b + r.b, s.c + r.c, s.d + r.d, s.e + r.e, s.f + r.f, s.g + r.g, s.h + r.h⟩

/-- The big-endian words of some bytes. -/
def wordsOf : List UInt8 → List UInt32
  | a :: b :: c :: d :: rest => UInt32.ofNat (BigEndian.value [a, b, c, d]) :: wordsOf rest
  | _ => []

/-- The digest after all whole blocks of sixteen words. -/
def absorb (state : State) (words : List UInt32) : State :=
  if words.length < 16 then state
  else absorb (compress state (words.take 16)) (words.drop 16)
termination_by words.length
decreasing_by
  simp only [List.length_drop]
  omega

/-- The message behind which stand a one bit, zeros and its length in bits. -/
def pad (message : List UInt8) : List UInt8 :=
  let bits := message.length * 8
  message ++ 0x80 :: List.replicate ((119 - message.length % 64) % 64) 0
    ++ BigEndian.word32 (UInt32.ofNat (bits / UInt32.size)) ++ BigEndian.word32 (UInt32.ofNat bits)

/-- The bytes of a digest. -/
def State.bytes (s : State) : List UInt8 :=
  [s.a, s.b, s.c, s.d, s.e, s.f, s.g, s.h].flatMap BigEndian.word32

/-- The digest of a message. -/
def hash (message : List UInt8) : List UInt8 :=
  (absorb initial (wordsOf (pad message))).bytes

@[simp] theorem length_hash (message : List UInt8) : (hash message).length = 32 := rfl

end WalletGateway.Sha256

namespace WalletGateway.Hmac

/-- The length of a block, and of the keys in use. -/
def blockSize : Nat := 64

/-- A key of one block. -/
structure Key where
  bytes : List UInt8
  length_bytes : bytes.length = blockSize

/-- The keyed digest of a message. -/
def sign (key : Key) (message : List UInt8) : List UInt8 :=
  let inner := Sha256.hash (key.bytes.map (· ^^^ 0x36) ++ message)
  Sha256.hash (key.bytes.map (· ^^^ 0x5c) ++ inner)

@[simp] theorem length_sign (key : Key) (message : List UInt8) : (sign key message).length = 32 :=
  rfl

end WalletGateway.Hmac
