import Timetable.Digest.Sha1

/-
  This file derives ids from names: the digest of a name
  within a space of names, marked as such and written with
  hyphens.

  Key definitions include:
    * `nameSpace`
    * `nameId`
-/

namespace Timetable.Digest

------------------------------------------------------------
-- Ids of Names
------------------------------------------------------------

/- The space that the names belong to. -/
def nameSpace : List UInt8 :=
  [0x6b, 0xa7, 0xb8, 0x12, 0x9d, 0xad, 0x11, 0xd1,
    0x80, 0xb4, 0x00, 0xc0, 0x4f, 0xd4, 0x30, 0xc8]

/- A byte with two hexadecimal digits. -/
def hexByte (b : UInt8) : String :=
  String.ofList [Nat.digitChar (b.toNat / 16), Nat.digitChar (b.toNat % 16)]

/- Mark sixteen bytes as an id that was derived from a name. -/
def markName (bytes : List UInt8) : List UInt8 :=
  bytes.zipIdx.map (fun (b, i) =>
    if i == 6 then (b &&& 0x0f) ||| 0x50
    else if i == 8 then (b &&& 0x3f) ||| 0x80
    else b)

/- Sixteen bytes in groups of eight, four, four, four and twelve digits. -/
def hyphenated (bytes : List UInt8) : String :=
  String.join (bytes.zipIdx.map (fun (b, i) =>
    (if [4, 6, 8, 10].contains i then "-" else "") ++ hexByte b))

/- The id of a name. -/
def nameId (name : String) : String :=
  hyphenated (markName ((sha1 (nameSpace ++ name.toUTF8.data.toList)).take 16))

end Timetable.Digest
