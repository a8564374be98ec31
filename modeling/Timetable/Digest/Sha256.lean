import Timetable.Digest.Block

/-
  This file computes the SHA-256 digest of a message, and the
  authentication code that is built on it.

  Key definitions include:
    * `Sha256.State`
    * `Sha256.compress`
    * `sha256`
    * `hmacSha256`
-/

namespace Timetable.Digest

------------------------------------------------------------
-- Compression
------------------------------------------------------------

namespace Sha256

/- The eight words that a digest is made of. -/
structure State where
  a : UInt32
  b : UInt32
  c : UInt32
  d : UInt32
  e : UInt32
  f : UInt32
  g : UInt32
  h : UInt32
deriving DecidableEq, Repr

/- The state before the first block. -/
def initial : State :=
  ⟨0x6a09e667, 0xbb67ae85, 0x3c6ef372, 0xa54ff53a,
    0x510e527f, 0x9b05688c, 0x1f83d9ab, 0x5be0cd19⟩

/- The constants of the rounds. -/
def constants : List UInt32 :=
  [0x428a2f98, 0x71374491, 0xb5c0fbcf, 0xe9b5dba5, 0x3956c25b, 0x59f111f1,
    0x923f82a4, 0xab1c5ed5, 0xd807aa98, 0x12835b01, 0x243185be, 0x550c7dc3,
    0x72be5d74, 0x80deb1fe, 0x9bdc06a7, 0xc19bf174, 0xe49b69c1, 0xefbe4786,
    0x0fc19dc6, 0x240ca1cc, 0x2de92c6f, 0x4a7484aa, 0x5cb0a9dc, 0x76f988da,
    0x983e5152, 0xa831c66d, 0xb00327c8, 0xbf597fc7, 0xc6e00bf3, 0xd5a79147,
    0x06ca6351, 0x14292967, 0x27b70a85, 0x2e1b2138, 0x4d2c6dfc, 0x53380d13,
    0x650a7354, 0x766a0abb, 0x81c2c92e, 0x92722c85, 0xa2bfe8a1, 0xa81a664b,
    0xc24b8b70, 0xc76c51a3, 0xd192e819, 0xd6990624, 0xf40e3585, 0x106aa070,
    0x19a4c116, 0x1e376c08, 0x2748774c, 0x34b0bcb5, 0x391c0cb3, 0x4ed8aa4a,
    0x5b9cca4f, 0x682e6ff3, 0x748f82ee, 0x78a5636f, 0x84c87814, 0x8cc70208,
    0x90befffa, 0xa4506ceb, 0xbef9a3f7, 0xc67178f2]

/- The words of the rounds of a block. -/
def schedule (block : List UInt32) : List UInt32 :=
  let sigma0 (w : UInt32) := rotateRight 7 w ^^^ rotateRight 18 w ^^^ (w >>> 3)
  let sigma1 (w : UInt32) := rotateRight 17 w ^^^ rotateRight 19 w ^^^ (w >>> 10)
  (extend
    (fun ws => back ws 16 + sigma0 (back ws 15) + back ws 7 + sigma1 (back ws 2))
    48 block.toArray).toList

/- One round. -/
def round
    (s : State)
    (constant word : UInt32) : State :=
  let sum1 := rotateRight 6 s.e ^^^ rotateRight 11 s.e ^^^ rotateRight 25 s.e
  let choice := (s.e &&& s.f) ^^^ ((~~~ s.e) &&& s.g)
  let first := s.h + sum1 + choice + constant + word
  let sum0 := rotateRight 2 s.a ^^^ rotateRight 13 s.a ^^^ rotateRight 22 s.a
  let majority := (s.a &&& s.b) ^^^ (s.a &&& s.c) ^^^ (s.b &&& s.c)
  ⟨first + (sum0 + majority), s.a, s.b, s.c, s.d + first, s.e, s.f, s.g⟩

/- Take a block into the state. -/
def compress
    (s : State)
    (block : List UInt32) : State :=
  let t := (constants.zip (schedule block)).foldl (fun t (k, w) => round t k w) s
  ⟨s.a + t.a, s.b + t.b, s.c + t.c, s.d + t.d,
    s.e + t.e, s.f + t.f, s.g + t.g, s.h + t.h⟩

end Sha256

------------------------------------------------------------
-- Digests
------------------------------------------------------------

/- The SHA-256 digest of a message. -/
def sha256 (message : List UInt8) : List UInt8 :=
  let s := (blocksOf (wordsOf (pad message))).foldl Sha256.compress Sha256.initial
  [s.a, s.b, s.c, s.d, s.e, s.f, s.g, s.h].flatMap bytesOf

/- A key as one block: a long one is digested, a short one filled up with zeros. -/
def keyBlock (key : List UInt8) : List UInt8 :=
  let key := if key.length ≤ 64 then key else sha256 key
  key ++ List.replicate (64 - key.length) 0

/- The authentication code of a message under a key. -/
def hmacSha256 (key message : List UInt8) : List UInt8 :=
  let block := keyBlock key
  let inner := sha256 (block.map (· ^^^ 0x36) ++ message)
  sha256 (block.map (· ^^^ 0x5c) ++ inner)

end Timetable.Digest
