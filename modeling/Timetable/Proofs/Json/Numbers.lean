import Timetable.Json.Reader
import Timetable.Proofs.Decimal.Numerals

/-
  This file proves that a reader of JSON takes the literal of
  a number as it was written.

  Key definitions include:
    * `Json.Ended`
    * `Json.IsLiteral`

  Main theorems:
    * `Json.isLiteral_toString`, `Json.isLiteral_render`: the
      numbers of the program are written as literals
    * `Json.readNumber_literal`: a literal is read up to its
      end
-/

namespace Timetable.Json

open Decimal

------------------------------------------------------------
-- Literals
------------------------------------------------------------

/- A text does not go on with a number that stands before it. -/
def Ended (rest : List Char) : Prop :=
  ∀ c ∈ rest.head?, c.isDigit = false ∧ c ≠ '.' ∧ c ≠ 'e' ∧ c ≠ 'E'

/- A text is the literal of a number. -/
def IsLiteral (literal : String) : Prop :=
  ∃ (negative : Bool) (n : Numeral),
    n.WellFormed ∧ literal = String.ofList (signText negative ++ n.text)

theorem isLiteral_toString
    (k : Int) :
    IsLiteral (toString k) := by
  refine ⟨decide (k < 0), _, wellFormed_toDigits k.natAbs, ?_⟩
  rw [toString_eq_signed]
  simp [Numeral.text, Numeral.placesText, Numeral.powerText]

theorem isLiteral_render
    {x : Float}
    (hFinite : IsFinite x) :
    IsLiteral (Layout.json.render x) := by
  obtain ⟨n, hShape, hText, -⟩ := exists_numeral_render hFinite
  exact ⟨_, n, hShape, hText⟩

------------------------------------------------------------
-- The Parts of a Literal
------------------------------------------------------------

/- A run of digits is taken as far as it goes. -/
theorem spanDigits_append
    {cs rest : List Char}
    (hDigits : AllDigits cs)
    (hEnd : ∀ c ∈ rest.head?, c.isDigit = false) :
    spanDigits (cs ++ rest) = (cs, rest) := by
  have hRest : rest.takeWhile Char.isDigit = [] ∧ rest.dropWhile Char.isDigit = rest := by
    cases rest with
    | nil => exact ⟨rfl, rfl⟩
    | cons c rest => simp [hEnd c rfl]
  rw [spanDigits, List.span_eq_takeWhile_dropWhile, List.takeWhile_append_of_pos hDigits,
    List.dropWhile_append_of_pos hDigits, hRest.1, hRest.2, List.append_nil]

section

variable {rest : List Char} (hEnd : Ended rest)

include hEnd

theorem readPower_powerText
    (power : Option Int) :
    readPower (Numeral.powerText power ++ rest) = .ok (Numeral.powerText power, rest) := by
  cases power with
  | none =>
      cases rest with
      | nil => rfl
      | cons c rest =>
          have hOther := hEnd c rfl
          simp [Numeral.powerText, readPower, hOther]
  | some e =>
      have hSpan :=
        spanDigits_append (allDigits_toDigits e.natAbs) (fun c hHead => (hEnd c hHead).1)
      obtain ⟨c, cs, hStart⟩ :=
        List.exists_cons_of_ne_nil (Nat.toDigits_ne_nil (n := e.natAbs) (b := 10))
      rw [hStart, List.cons_append] at hSpan
      by_cases hNegative : e < 0
      · simp [Numeral.powerText, readPower, hNegative, hStart, hSpan]
      · simp [Numeral.powerText, readPower, hNegative, hStart, hSpan]

/- A power goes on with no digit and no point. -/
theorem head?_powerText
    (power : Option Int) :
    ∀ c ∈ (Numeral.powerText power ++ rest).head?, c.isDigit = false ∧ c ≠ '.' := by
  cases power with
  | none => exact fun c hHead => ⟨(hEnd c hHead).1, (hEnd c hHead).2.1⟩
  | some e =>
      intro c hHead
      cases hHead
      decide

theorem readPlaces_placesText
    {places : List Char}
    (hDigits : AllDigits places)
    (power : Option Int) :
    readPlaces (Numeral.placesText places ++ (Numeral.powerText power ++ rest)) =
      .ok (Numeral.placesText places, Numeral.powerText power ++ rest) := by
  have hHead := head?_powerText hEnd power
  cases places with
  | nil =>
      rw [Numeral.placesText, List.nil_append]
      unfold readPlaces
      split
      · rename_i tail hPoint
        rw [hPoint] at hHead
        exact absurd rfl (hHead '.' rfl).2
      · rfl
  | cons c cs =>
      have hSpan := spanDigits_append hDigits (fun c h => (hHead c h).1)
      rw [List.cons_append] at hSpan
      simp [Numeral.placesText, readPlaces, hSpan]

theorem readWhole_whole
    {n : Numeral}
    (hShape : n.WellFormed) :
    readWhole (n.whole ++ (Numeral.placesText n.places ++ (Numeral.powerText n.power ++ rest))) =
      .ok (n.whole, Numeral.placesText n.places ++ (Numeral.powerText n.power ++ rest)) := by
  rcases hShape.leading with hZero | hLeading
  · rw [hZero]
    rfl
  · have hTail :
        ∀ c ∈ (Numeral.placesText n.places ++ (Numeral.powerText n.power ++ rest)).head?,
          c.isDigit = false := by
      cases n.places with
      | nil => exact fun c hHead => (head?_powerText hEnd n.power c hHead).1
      | cons d ds =>
          intro c hHead
          cases hHead
          rfl
    have hSpan := spanDigits_append hShape.whole hTail
    obtain ⟨c, cs, hStart⟩ := List.exists_cons_of_ne_nil hShape.some
    rw [hStart] at hLeading hSpan ⊢
    rw [List.cons_append] at hSpan ⊢
    unfold readWhole
    split
    · rename_i tail hZero
      cases hZero
      exact absurd rfl hLeading
    · rw [hSpan]

/- A literal is read up to its end. -/
theorem readNumber_literal
    {literal : String}
    (hLiteral : IsLiteral literal) :
    readNumber (literal.toList ++ rest) = .ok (literal, rest) := by
  obtain ⟨negative, n, hShape, rfl⟩ := hLiteral
  obtain ⟨c, cs, hDigit, hStart⟩ := Numeral.text_start hShape
  have hWhole := readWhole_whole hEnd hShape
  have hPlaces := readPlaces_placesText hEnd hShape.places n.power
  have hPower := readPower_powerText hEnd n.power
  have hText :
      n.text ++ rest =
        n.whole ++ (Numeral.placesText n.places ++ (Numeral.powerText n.power ++ rest)) := by
    simp [Numeral.text]
  have hSign :
      spanMinus ((String.ofList (signText negative ++ n.text)).toList ++ rest) =
        (signText negative, n.text ++ rest) := by
    cases negative with
    | true => simp [signText, spanMinus]
    | false =>
        have hMinus : c ≠ '-' := ne_of_isDigit hDigit rfl
        simp [signText, spanMinus, hStart, hMinus]
  rw [readNumber, hSign]
  simp only [hText, hWhole, hPlaces, hPower, bind, Except.bind, pure, Except.pure]
  simp [Numeral.text]

end

end Timetable.Json
