import Timetable.Catalog.LessonCodec
import Timetable.Proofs.Json.RoundTrip

/-
  This file proves that lessons which were written as JSON
  are read back as the same lessons, if at all.  Only a
  lesson with a number that is too large for a 64-bit integer
  is written and cannot be read.

  Key definitions include:
    * `Catalog.Written`

  Main theorems include:
    * `Json.record_obj`: members go to the fields they name
    * `Catalog.written_of_refusal?`: lessons without a refusal
      have been written
    * `Catalog.eq_of_decodeLessons`: lessons that are read
      back are those that were written
-/

namespace Timetable

------------------------------------------------------------
-- Numbers and Records
------------------------------------------------------------

namespace Json

theorem integer_int
    (n old : Int) :
    integer (.int n) old = Decimal.int64? n :=
  Decimal.readInteger?_toString n

theorem float_of_isFinite
    {x : Float}
    (hFinite : Decimal.IsFinite x) :
    float x = .num (Decimal.Layout.json.render x) := by
  simp only [float, hFinite.1, hFinite.2, Bool.or_self, Bool.false_eq_true, if_false]

theorem optional_float
    {x : Float}
    (hFinite : Decimal.IsFinite x)
    (old : Option Float) :
    optional 0 number (float x) old = some (some x) := by
  rw [float_of_isFinite hFinite, optional, number, Decimal.readFloat?_render hFinite]
  · rfl
  · simp

theorem isFinite_of_refusal?
    {x : Float}
    (hNone : (float x).refusal? = none) :
    Decimal.IsFinite x := by
  unfold float at hNone
  simp only at hNone
  split at hNone
  · cases hNone
  · rename_i hFinite
    rwa [Bool.or_eq_true, not_or, Bool.not_eq_true, Bool.not_eq_true] at hFinite

/- Members whose names are those of fields go to these very fields. -/
theorem record_obj
    {σ : Type}
    {fields : List (Field σ)}
    {ms : List (String × Json)}
    (hNames : ∀ m ∈ ms, m.1 ∈ fields.map (·.name))
    (s : σ) :
    record fields (.obj ms) s =
      fields.foldlM
        (fun s f => f.update ((ms.filter (fun m => m.1 == f.name)).map (·.2)) s) s := by
  have hValues :
      ∀ f, valuesOf fields f ms = (ms.filter (fun m => m.1 == f.name)).map (·.2) := by
    intro f
    unfold valuesOf
    congr 1
    apply List.filter_congr
    intro m hMember
    obtain ⟨g, hField, hName⟩ := List.mem_map.mp (hNames m hMember)
    have hFound : (fields.find? (fun f => f.name == m.1)).isSome = true := by
      rw [List.find?_isSome]
      exact ⟨g, hField, by simpa using hName⟩
    obtain ⟨h, hFind⟩ := Option.isSome_iff_exists.mp hFound
    have hSame : h.name = m.1 := by simpa using List.find?_some hFind
    simp [findField, hFind, hSame]
  simp only [record, hValues]

/- Elements that are decoded, each from its own text, are those that were written. -/
theorem eq_of_elements
    {α : Type}
    {blank : α}
    {decode : Decoder α}
    {encode : α → Json}
    {as bs : List α}
    (hSame : ∀ a ∈ as, ∀ b, decode (encode a) blank = some b → b = a)
    (hDecoded : elements blank decode (as.map encode) [] = some bs) :
    bs = as := by
  induction as generalizing bs with
  | nil =>
      cases hDecoded
      rfl
  | cons a as ih =>
      rw [List.map_cons, elements, List.head?_nil, Option.getD_none, List.tail_nil] at hDecoded
      simp only [Option.bind_eq_bind, Option.bind_eq_some_iff, Option.pure_def] at hDecoded
      obtain ⟨b, hHead, rest, hTail, hWhole⟩ := hDecoded
      cases hWhole
      rw [hSame a List.mem_cons_self b hHead,
        ih (fun c hc => hSame c (List.mem_cons_of_mem a hc)) hTail]

end Json

------------------------------------------------------------
-- Lessons
------------------------------------------------------------

namespace Catalog

open Plan

/- A lesson has a text: its duration, if it has one, is a finite number. -/
def Written (l : Lesson Float) : Prop :=
  ∀ d ∈ l.duration, Decimal.IsFinite d

theorem eq_of_int64?
    {n k : Int}
    (hSome : Decimal.int64? n = some k) :
    n = k := by
  unfold Decimal.int64? at hSome
  split at hSome
  · exact Option.some.inj hSome
  · cases hSome

/- A lesson reads back with its integers as they are read. -/
theorem decodeLesson_encodeLesson
    {l : Lesson Float}
    (hWritten : Written l) :
    decodeLesson (encodeLesson l) (Lesson.blank Float) =
      (Decimal.int64? l.sequence).bind (fun sequence =>
        (Decimal.int64? l.priority).bind (fun priority =>
          (Decimal.int64? l.moduleSequence).map (fun moduleSequence =>
            { l with
              sequence := sequence
              priority := priority
              moduleSequence := moduleSequence }))) := by
  unfold decodeLesson encodeLesson
  cases hDuration : l.duration with
  | none =>
      rw [Json.record_obj (by simp [lessonFields, Json.field])]
      simp only [lessonFields, List.foldlM_cons, List.foldlM_nil, Json.field]
      simp [Json.text, Json.integer_int, Lesson.blank, Option.map_eq_bind, Option.bind_assoc]
  | some d =>
      rw [Json.record_obj (by simp [lessonFields, Json.field])]
      simp only [lessonFields, List.foldlM_cons, List.foldlM_nil, Json.field]
      simp [Json.text, Json.integer_int, Json.optional_float (hWritten d hDuration), Lesson.blank,
        Option.map_eq_bind, Option.bind_assoc]

theorem eq_of_decodeLesson
    {l m : Lesson Float}
    (hWritten : Written l)
    (hDecoded : decodeLesson (encodeLesson l) (Lesson.blank Float) = some m) :
    m = l := by
  rw [decodeLesson_encodeLesson hWritten] at hDecoded
  simp only [Option.bind_eq_some_iff, Option.map_eq_some_iff] at hDecoded
  obtain ⟨_, hSequence, _, hPriority, _, hModule, rfl⟩ := hDecoded
  rw [← eq_of_int64? hSequence, ← eq_of_int64? hPriority, ← eq_of_int64? hModule]

/- A lesson that is not refused has been written. -/
theorem written_of_refusal?
    {l : Lesson Float}
    (hNone : (encodeLesson l).refusal? = none) :
    Written l := by
  intro d hDuration
  rw [Option.mem_def] at hDuration
  apply Json.isFinite_of_refusal?
  simpa [encodeLesson, hDuration, Json.refusal?, Json.membersRefusal?, Json.int] using hNone

theorem textual_encodeLesson
    {l : Lesson Float}
    (hWritten : Written l) :
    Json.Textual 1 (encodeLesson l) := by
  have hInteger : ∀ n, Json.Textual 0 (.int n) := fun n => .num (Json.isLiteral_toString n)
  apply Json.Textual.obj
  cases hDuration : l.duration with
  | none => simp [hInteger, Json.Textual.str]
  | some d =>
      have hFinite := hWritten d hDuration
      have hFloat : Json.Textual 0 (.float d) := by
        rw [Json.float_of_isFinite hFinite]
        exact .num (Json.isLiteral_render hFinite)
      simp [hInteger, hFloat, Json.Textual.str]

------------------------------------------------------------
-- Lists of Lessons
------------------------------------------------------------

theorem refusal?_of_mem
    {vs : List Json}
    {v : Json}
    (hNone : Json.itemsRefusal? vs = none)
    (hMember : v ∈ vs) :
    v.refusal? = none := by
  induction vs with
  | nil => cases hMember
  | cons u vs ih =>
      rw [Json.itemsRefusal?, Option.orElse_eq_orElse, Option.orElse_eq_or, Option.or_eq_none_iff]
        at hNone
      rcases List.mem_cons.mp hMember with rfl | hMember
      · exact hNone.1
      · exact ih hNone.2 hMember

theorem written_of_lessons
    {ls : List (Lesson Float)}
    (hNone : (encodeLessons (some ls)).refusal? = none) :
    ∀ l ∈ ls, Written l := by
  intro l hMember
  rw [encodeLessons, Json.ofOption, Json.refusal?] at hNone
  exact written_of_refusal? (refusal?_of_mem hNone (List.mem_map_of_mem hMember))

/- Lessons that can be written are read as the text that they were written with. -/
theorem whole_render_lessons
    {ls : Option (List (Lesson Float))}
    (hNone : (encodeLessons ls).refusal? = none) :
    Json.whole (encodeLessons ls).render = .ok (encodeLessons ls) := by
  have hText : Json.Textual 2 (encodeLessons ls) := by
    cases ls with
    | none => exact .null
    | some ls =>
        have hWritten := written_of_lessons hNone
        apply Json.Textual.arr
        intro v hMember
        obtain ⟨l, hLesson, rfl⟩ := List.mem_map.mp hMember
        exact textual_encodeLesson (hWritten l hLesson)
  exact Json.whole_render hText (by decide)

/- Lessons that are read back are those that were written. -/
theorem eq_of_decodeLessons
    {ls : Option (List (Lesson Float))}
    {found : Option (List (Lesson Float))}
    (hNone : (encodeLessons ls).refusal? = none)
    (hDecoded : decodeLessons (encodeLessons ls) = some found) :
    found = ls := by
  cases ls with
  | none =>
      cases hDecoded
      rfl
  | some ls =>
      have hWritten := written_of_lessons hNone
      cases ls with
      | nil =>
          cases hDecoded
          rfl
      | cons l ls =>
          have hElements :
              (Json.elements (Lesson.blank Float) decodeLesson ((l :: ls).map encodeLesson)
                []).map some = some found := by
            rw [← hDecoded, decodeLessons, encodeLessons, Json.ofOption, List.map_cons, Json.list,
              Json.slots]
            · simp [Function.comp_def]
            · simp
          obtain ⟨decoded, hList, rfl⟩ := Option.map_eq_some_iff.mp hElements
          rw [Json.eq_of_elements (fun m hm _ => eq_of_decodeLesson (hWritten m hm)) hList]

end Catalog

end Timetable
