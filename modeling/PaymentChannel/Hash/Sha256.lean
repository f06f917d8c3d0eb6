import PaymentChannel.Hash

/-!
# SHA-256

* `sha256` : the hash of a message.
* `hmacSha256` : the keyed hash of a message with keys of at most one block.
-/

namespace PaymentChannel

namespace Sha256

structure State where
  (a b c d e f g h : UInt32)

def initial : State :=
  ⟨0x6a09e667, 0xbb67ae85, 0x3c6ef372, 0xa54ff53a, 0x510e527f, 0x9b05688c, 0x1f83d9ab, 0x5be0cd19⟩

def roundConstants : List UInt32 :=
  [0x428a2f98, 0x71374491, 0xb5c0fbcf, 0xe9b5dba5, 0x3956c25b, 0x59f111f1, 0x923f82a4, 0xab1c5ed5,
   0xd807aa98, 0x12835b01, 0x243185be, 0x550c7dc3, 0x72be5d74, 0x80deb1fe, 0x9bdc06a7, 0xc19bf174,
   0xe49b69c1, 0xefbe4786, 0x0fc19dc6, 0x240ca1cc, 0x2de92c6f, 0x4a7484aa, 0x5cb0a9dc, 0x76f988da,
   0x983e5152, 0xa831c66d, 0xb00327c8, 0xbf597fc7, 0xc6e00bf3, 0xd5a79147, 0x06ca6351, 0x14292967,
   0x27b70a85, 0x2e1b2138, 0x4d2c6dfc, 0x53380d13, 0x650a7354, 0x766a0abb, 0x81c2c92e, 0x92722c85,
   0xa2bfe8a1, 0xa81a664b, 0xc24b8b70, 0xc76c51a3, 0xd192e819, 0xd6990624, 0xf40e3585, 0x106aa070,
   0x19a4c116, 0x1e376c08, 0x2748774c, 0x34b0bcb5, 0x391c0cb3, 0x4ed8aa4a, 0x5b9cca4f, 0x682e6ff3,
   0x748f82ee, 0x78a5636f, 0x84c87814, 0x8cc70208, 0x90befffa, 0xa4506ceb, 0xbef9a3f7, 0xc67178f2]

/-- A word turned towards its low end. -/
def turnRight (w n : UInt32) : UInt32 := w >>> n ||| w <<< (32 - n)

def wordOfBytes (bytes : Bytes) : UInt32 := UInt32.ofNat bytes.toNat

/-- The message schedule after `count` more words. The last sixteen words are given, last one
first; all words are returned in order. -/
def schedule : (count : Nat) → (recent : List UInt32) → (all : List UInt32) → List UInt32
  | 0, _, all => all.reverse
  | count + 1, recent, all =>
    let w15 := recent.getD 14 0
    let w2 := recent.getD 1 0
    let s0 := turnRight w15 7 ^^^ turnRight w15 18 ^^^ (w15 >>> 3)
    let s1 := turnRight w2 17 ^^^ turnRight w2 19 ^^^ (w2 >>> 10)
    let w := recent.getD 15 0 + s0 + recent.getD 6 0 + s1
    schedule count (w :: recent.take 15) (w :: all)

def round (s : State) (constant : UInt32) (word : UInt32) : State :=
  let s1 := turnRight s.e 6 ^^^ turnRight s.e 11 ^^^ turnRight s.e 25
  let choice := (s.e &&& s.f) ^^^ (~~~s.e &&& s.g)
  let t1 := s.h + s1 + choice + constant + word
  let s0 := turnRight s.a 2 ^^^ turnRight s.a 13 ^^^ turnRight s.a 22
  let majority := (s.a &&& s.b) ^^^ (s.a &&& s.c) ^^^ (s.b &&& s.c)
  ⟨t1 + s0 + majority, s.a, s.b, s.c, s.d + t1, s.e, s.f, s.g⟩

def absorbBlock (s : State) (block : Bytes) : State :=
  let words := (List.range 16).map fun i => wordOfBytes ((block.drop (4 * i)).take 4)
  let all := schedule 48 words.reverse words.reverse
  let t := (roundConstants.zip all).foldl (fun t (constant, word) => round t constant word) s
  ⟨s.a + t.a, s.b + t.b, s.c + t.c, s.d + t.d, s.e + t.e, s.f + t.f, s.g + t.g, s.h + t.h⟩

def absorb : (count : Nat) → State → Bytes → State
  | 0, s, _ => s
  | count + 1, s, bytes => absorb count (absorbBlock s (bytes.take 64)) (bytes.drop 64)

/-- The message with its padding: a one bit, zeros, and the number of bits in eight bytes. -/
def pad (message : Bytes) : Bytes :=
  let zeros := (119 - message.length % 64) % 64
  message ++ 0x80 :: List.replicate zeros 0 ++ bigEndian 8 (8 * message.length)

def State.bytes (s : State) : Bytes :=
  [s.a, s.b, s.c, s.d, s.e, s.f, s.g, s.h].flatMap fun w => bigEndian 4 w.toNat

end Sha256

open Sha256 in
def sha256 (message : Bytes) : Hash :=
  let padded := pad message
  Hash.ofBytes (absorb (padded.length / 64) initial padded).bytes

/-- The HMAC of a message, with SHA-256 and a key of at most 64 bytes. -/
def hmacSha256 (key message : Bytes) : Bytes :=
  let key := key ++ List.replicate (64 - key.length) 0
  let inner := sha256 (key.map (· ^^^ 0x36) ++ message)
  (sha256 (key.map (· ^^^ 0x5c) ++ inner.bytes)).bytes

end PaymentChannel
