/-
  This file prepares messages for digests that work on blocks
  of sixteen 32-bit words: a message is closed by a one bit,
  filled up with zeros, and ended by its length.

  Key definitions include:
    * `pad`
    * `wordsOf`
    * `blocksOf`
    * `bytesOf`
-/

namespace Timetable.Digest

------------------------------------------------------------
-- Padding
------------------------------------------------------------

/- The last eight bytes of a number, the highest first. -/
def lengthBytes (n : Nat) : List UInt8 :=
  (List.range 8).reverse.map (fun i => UInt8.ofNat (n / Nat.pow 256 i))

/- The zeros that fill a message up to whole blocks. -/
def fillers (length : Nat) : Nat :=
  (119 - length % 64) % 64

/- A message with its closing bit, zeros, and length in bits. -/
def pad (message : List UInt8) : List UInt8 :=
  message ++ [0x80] ++ List.replicate (fillers message.length) 0 ++
    lengthBytes (8 * message.length)

------------------------------------------------------------
-- Words
------------------------------------------------------------

/- Four bytes as a word, the highest first. -/
def wordOf (a b c d : UInt8) : UInt32 :=
  (a.toUInt32 <<< 24) ||| (b.toUInt32 <<< 16) ||| (c.toUInt32 <<< 8) ||| d.toUInt32

/- The words of a message of whole blocks. -/
def wordsOf : List UInt8 → List UInt32
| a :: b :: c :: d :: rest => wordOf a b c d :: wordsOf rest
| _ => []

/- Words in blocks of sixteen. -/
def blocksOf (ws : List UInt32) : List (List UInt32) :=
  match ws with
  | [] => []
  | w :: rest => (w :: rest).take 16 :: blocksOf ((w :: rest).drop 16)
termination_by ws.length
decreasing_by
  simp only [List.length_drop, List.length_cons]
  omega

/- The bytes of a word, the highest first. -/
def bytesOf (w : UInt32) : List UInt8 :=
  [(w >>> 24).toUInt8, (w >>> 16).toUInt8, (w >>> 8).toUInt8, w.toUInt8]

/- Rotate a word to the left by less than its width. -/
def rotateLeft
    (n : UInt32)
    (w : UInt32) : UInt32 :=
  (w <<< n) ||| (w >>> (32 - n))

/- Rotate a word to the right by less than its width. -/
def rotateRight
    (n : UInt32)
    (w : UInt32) : UInt32 :=
  (w >>> n) ||| (w <<< (32 - n))

/-
  Extend a block to a number of words, each one computed from
  the words before it.
-/
def extend
    (next : Array UInt32 → UInt32) :
    Nat → Array UInt32 → Array UInt32
| 0, ws => ws
| n + 1, ws => extend next n (ws.push (next ws))

/- The word that stands a distance before the end. -/
def back
    (ws : Array UInt32)
    (distance : Nat) : UInt32 :=
  ws.getD (ws.size - distance) 0

end Timetable.Digest
