import Timetable.Digest.Block

/-
  This file computes the SHA-1 digest of a message.

  Key definitions include:
    * `Sha1.State`
    * `Sha1.compress`
    * `sha1`
-/

namespace Timetable.Digest

------------------------------------------------------------
-- Compression
------------------------------------------------------------

namespace Sha1

/- The five words that a digest is made of. -/
structure State where
  a : UInt32
  b : UInt32
  c : UInt32
  d : UInt32
  e : UInt32
deriving DecidableEq, Repr

/- The state before the first block. -/
def initial : State :=
  ⟨0x67452301, 0xefcdab89, 0x98badcfe, 0x10325476, 0xc3d2e1f0⟩

/- The words of the rounds of a block. -/
def schedule (block : List UInt32) : List UInt32 :=
  (extend
    (fun ws => rotateLeft 1 (back ws 3 ^^^ back ws 8 ^^^ back ws 14 ^^^ back ws 16))
    64 block.toArray).toList

/- How a round mixes three words, and its constant. -/
def mix
    (i : Nat)
    (b c d : UInt32) : UInt32 × UInt32 :=
  if i < 20 then ((b &&& c) ||| ((~~~ b) &&& d), 0x5a827999)
  else if i < 40 then (b ^^^ c ^^^ d, 0x6ed9eba1)
  else if i < 60 then ((b &&& c) ||| (b &&& d) ||| (c &&& d), 0x8f1bbcdc)
  else (b ^^^ c ^^^ d, 0xca62c1d6)

/- One round. -/
def round
    (s : State)
    (i : Nat)
    (word : UInt32) : State :=
  let (mixed, constant) := mix i s.b s.c s.d
  ⟨rotateLeft 5 s.a + mixed + s.e + constant + word, s.a, rotateLeft 30 s.b, s.c, s.d⟩

/- Take a block into the state. -/
def compress
    (s : State)
    (block : List UInt32) : State :=
  let t := (schedule block).zipIdx.foldl (fun t (w, i) => round t i w) s
  ⟨s.a + t.a, s.b + t.b, s.c + t.c, s.d + t.d, s.e + t.e⟩

end Sha1

------------------------------------------------------------
-- Digests
------------------------------------------------------------

/- The SHA-1 digest of a message. -/
def sha1 (message : List UInt8) : List UInt8 :=
  let s := (blocksOf (wordsOf (pad message))).foldl Sha1.compress Sha1.initial
  [s.a, s.b, s.c, s.d, s.e].flatMap bytesOf

end Timetable.Digest
