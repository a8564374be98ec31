import Timetable.Calendar.Timestamp
import Timetable.Decimal.Reading
import Timetable.Json.Reader

/-
  This file decodes JSON values into the values of the
  program.  A decoder updates a value: what a text does not
  mention keeps what it had, and `null` changes nothing but
  optional parts and lists, which it empties.

  Key definitions include:
    * `Json.Decoder`
    * `Json.text`
    * `Json.integer`
    * `Json.number`
    * `Json.optional`
    * `Json.slots`
    * `Json.field`
    * `Json.record`
    * `Json.floats`
-/

namespace Timetable.Json

------------------------------------------------------------
-- Decoders
------------------------------------------------------------

/- A decoder of `α` updates a value, or refuses. -/
abbrev Decoder (α : Type) :=
  Json → α → Option α

/- A text. -/
def text : Decoder String
| .null, old => some old
| .str s, _ => some s
| _, _ => none

/- A truth value. -/
def flag : Decoder Bool
| .null, old => some old
| .bool b, _ => some b
| _, _ => none

/- A 64-bit integer, written without fraction and exponent. -/
def integer : Decoder Int
| .null, old => some old
| .num literal, _ => Decimal.readInteger? literal
| _, _ => none

/- A number of finite size. -/
def number : Decoder Float
| .null, old => some old
| .num literal, _ => Decimal.readFloat? literal
| _, _ => none

/- A moment. -/
def moment : Decoder Timestamp
| .null, old => some old
| .str s, _ => Timestamp.read? s
| _, _ => none

/- Any value at all. -/
def any : Decoder Json :=
  fun v _ => some v

/- A value that may be absent. -/
def optional
    {α : Type}
    (blank : α)
    (decode : Decoder α) : Decoder (Option α)
| .null, _ => some none
| v, old => (decode v (old.getD blank)).map some

/- Decode elements, each over the element that stood in its place. -/
def elements
    {α : Type}
    (blank : α)
    (decode : Decoder α) : List Json → List α → Option (List α)
| [], _ => some []
| v :: vs, old => do
    let a ← decode v (old.head?.getD blank)
    let rest ← elements blank decode vs old.tail
    return a :: rest

/-
  A list in the making: its elements, and those that stood
  behind them before it was last cut short.
-/
structure Slots (α : Type) where
  shown : Option (List α)
  hidden : List α

/-
  A list that may be absent.  Its elements are decoded over
  those that stood in their places, hidden ones included; a
  list that is absent or empty hides nothing.
-/
def slots
    {α : Type}
    (blank : α)
    (decode : Decoder α) : Decoder (Slots α)
| .null, _ => some ⟨none, []⟩
| .arr [], _ => some ⟨some [], []⟩
| .arr vs, old =>
    let places := old.shown.getD [] ++ old.hidden
    (elements blank decode vs places).map (fun xs => ⟨some xs, places.drop xs.length⟩)
| _, _ => none

/- A list that is given once. -/
def list
    {α : Type}
    (blank : α)
    (decode : Decoder α) : Decoder (Option (List α)) :=
  fun v old => (slots blank decode v ⟨old, []⟩).map (·.shown)

------------------------------------------------------------
-- Records
------------------------------------------------------------

/-
  Fold the case of a name: ASCII letters are raised, and so
  are the two other characters that lower to an ASCII letter.
-/
def foldChar (c : Char) : Char :=
  if c.toNat == 0x212A then 'K'
  else if c.toNat == 0x17F then 'S'
  else if 'a' ≤ c ∧ c ≤ 'z' then Char.ofNat (c.toNat - 32)
  else c

/- Two names are equal but for case. -/
def sameName (a b : String) : Bool :=
  a.toList.map foldChar == b.toList.map foldChar

/-
  A field of a record: its name, and how the values that are
  given for it, one after the other, update the record.
-/
structure Field (σ : Type) where
  name : String
  update : List Json → σ → Option σ

/- A field that is read by a decoder and kept by a setter. -/
def field
    {σ α : Type}
    (name : String)
    (decode : Decoder α)
    (get : σ → α)
    (set : σ → α → σ) : Field σ :=
  ⟨name, fun vs s => (vs.foldlM (fun a v => decode v a) (get s)).map (set s)⟩

/- A field that holds a list. -/
def listField
    {σ α : Type}
    (name : String)
    (blank : α)
    (decode : Decoder α)
    (get : σ → Option (List α))
    (set : σ → Option (List α) → σ) : Field σ :=
  ⟨name, fun vs s =>
    (vs.foldlM (fun a v => slots blank decode v a) ⟨get s, []⟩).map (fun a => set s a.shown)⟩

/- A field that holds a list of texts. -/
def textsField
    {σ : Type}
    (name : String)
    (get : σ → Option (List String))
    (set : σ → Option (List String) → σ) : Field σ :=
  listField name "" text get set

/- The field a member belongs to: of its very name, else of its name but for case. -/
def findField
    {σ : Type}
    (fields : List (Field σ))
    (name : String) : Option (Field σ) :=
  match fields.find? (fun f => f.name == name) with
  | some f => some f
  | none => fields.find? (fun f => sameName f.name name)

/- The values that the members of an object give for a field, in order. -/
def valuesOf
    {σ : Type}
    (fields : List (Field σ))
    (f : Field σ)
    (members : List (String × Json)) : List Json :=
  (members.filter (fun m => (findField fields m.1).any (fun g => g.name == f.name))).map (·.2)

/- A record; members without a field are passed over. -/
def record
    {σ : Type}
    (fields : List (Field σ)) : Decoder σ
| .null, s => some s
| .obj ms, s => fields.foldlM (fun s f => f.update (valuesOf fields f ms) s) s
| _, _ => none

------------------------------------------------------------
-- Untyped Values
------------------------------------------------------------

/- A number that is too large to be kept, and where it stands. -/
structure TooLarge where
  literal : String
  path : List String
deriving DecidableEq, Repr

/- A step of a path, with the separators of paths escaped. -/
private def pathStep (name : String) : String :=
  String.join (name.toList.map (fun c =>
    if c == '~' then "~0" else if c == '/' then "~1" else c.toString))

/- The wording of the refusal. -/
def TooLarge.message (e : TooLarge) : String :=
  let place := String.intercalate "." (e.path.map pathStep)
  "json: cannot unmarshal number " ++ e.literal ++
    (if place == "" then " into Go value" else " into ." ++ place) ++ " of type float64"

mutual

/- A value whose numbers are floating-point numbers. -/
def floats : Json → Except TooLarge Json
| .num literal =>
    match Decimal.readFloat? literal with
    | some x => .ok (.float x)
    | none => .error ⟨literal, []⟩
| .arr vs => (floatItems 0 vs).map .arr
| .obj ms => (floatMembers ms).map .obj
| v => .ok v

/- The elements of a list from a position on. -/
def floatItems : Nat → List Json → Except TooLarge (List Json)
| _, [] => .ok []
| i, v :: vs => do
    let v ← (floats v).mapError (fun e => { e with path := toString i :: e.path })
    let vs ← floatItems (i + 1) vs
    return v :: vs

/- The members of an object. -/
def floatMembers : List (String × Json) → Except TooLarge (List (String × Json))
| [] => .ok []
| (name, v) :: ms => do
    let v ← (floats v).mapError (fun e => { e with path := name :: e.path })
    let ms ← floatMembers ms
    return (name, v) :: ms

end

end Timetable.Json
