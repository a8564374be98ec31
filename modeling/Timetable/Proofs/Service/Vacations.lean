import Mathlib.Data.List.Forall2
import Timetable.Proofs.Calendar.Dates
import Timetable.Proofs.Json.RoundTrip
import Timetable.Service.Plans

/-
  This file proves that the vacations of an accepted request
  are read back from the text that they are stored as.

  Key definitions include:
    * `Vacation.Legible`
    * `VacationRequest.Names`
    * `vacationJson`
    * `vacationRequest`

  Main theorems include:
    * `readVacations_names`
    * `parseRequest_legible`
    * `readStoredVacations_vacationsText`
-/

namespace Timetable

namespace Plan

/- The days of a vacation read back from their texts. -/
structure Vacation.Legible (v : Vacation) : Prop where
  start : Date.read? v.start.render = some v.start
  finish : Date.read? v.finish.render = some v.finish

end Plan

namespace Service

open Plan

------------------------------------------------------------
-- Vacations of a Request
------------------------------------------------------------

theorem read?_of_readDate
    {name text : String}
    {d : Date}
    (h : readDate name text = .ok d) :
    Date.read? text = some d := by
  unfold readDate at h
  split at h
  · rename_i hRead
    cases h
    exact hRead
  · cases h

private theorem bind_eq_ok
    {ε α β : Type}
    {x : Except ε α}
    {f : α → Except ε β}
    {b : β}
    (h : (x >>= f) = .ok b) :
    ∃ a, x = .ok a ∧ f a = .ok b := by
  cases x with
  | error e => cases h
  | ok a => exact ⟨a, rfl, h⟩

/- A vacation as a client wrote it, and the vacation that is meant. -/
structure VacationRequest.Names
    (r : VacationRequest)
    (v : Vacation) : Prop where
  start : Date.read? r.start = some v.start
  finish : Date.read? r.finish = some v.finish

/- Vacations are read one by one, in the order in which they were written. -/
theorem readVacations_names
    {i : Nat}
    {requests : List VacationRequest}
    {vacations : List Vacation}
    (h : readVacations i requests = .ok vacations) :
    List.Forall₂ VacationRequest.Names requests vacations := by
  induction requests generalizing i vacations with
  | nil =>
      cases h
      exact .nil
  | cons request rest ih =>
      rw [readVacations] at h
      rcases bind_eq_ok h with ⟨start, hStart, h⟩
      rcases bind_eq_ok h with ⟨finish, hFinish, h⟩
      split at h
      · cases h
      · rcases bind_eq_ok h with ⟨more, hMore, h⟩
        cases h
        have hNames : request.Names ⟨start, finish⟩ :=
          ⟨read?_of_readDate hStart, read?_of_readDate hFinish⟩
        exact .cons hNames (ih hMore)

theorem VacationRequest.Names.legible
    {r : VacationRequest}
    {v : Vacation}
    (h : r.Names v) :
    v.Legible :=
  ⟨Date.read?_render h.start, Date.read?_render h.finish⟩

/- The days of vacations come from texts. -/
theorem readVacations_legible
    {i : Nat}
    {requests : List VacationRequest}
    {vacations : List Vacation}
    (h : readVacations i requests = .ok vacations) :
    ∀ v ∈ vacations, v.Legible := by
  have hNames := readVacations_names h
  clear h
  induction hNames with
  | nil => exact fun _ hv => nomatch hv
  | cons hFirst _ ih => exact List.forall_mem_cons.mpr ⟨hFirst.legible, ih⟩

/- The vacations of an accepted request. -/
theorem readVacations_of_parseRequest
    {req : GenerateRequest}
    {input : GenerationInput}
    (h : parseRequest req = .ok input) :
    readVacations 0 (req.vacations.getD []) = .ok input.vacations := by
  unfold parseRequest at h
  simp only at h
  split at h
  · rcases bind_eq_ok h with ⟨start, _, h⟩
    rcases bind_eq_ok h with ⟨finish, _, h⟩
    split at h
    · rcases bind_eq_ok h with ⟨vacations, hVacations, h⟩
      split at h
      · cases h
      · cases h
        exact hVacations
    · cases h
  · cases h

theorem parseRequest_legible
    {req : GenerateRequest}
    {input : GenerationInput}
    (h : parseRequest req = .ok input) :
    ∀ v ∈ input.vacations, v.Legible :=
  readVacations_legible (readVacations_of_parseRequest h)

------------------------------------------------------------
-- Stored Vacations
------------------------------------------------------------

/- A vacation as it is stored. -/
def vacationJson (v : Vacation) : Json :=
  .obj [("start", .str v.start.render), ("end", .str v.finish.render)]

theorem vacationsText_eq
    (vacations : List Vacation) :
    vacationsText vacations = (Json.arr (vacations.map vacationJson)).render :=
  rfl

theorem vacations_textual
    (vacations : List Vacation) :
    Json.Textual 2 (.arr (vacations.map vacationJson)) := by
  apply Json.Textual.arr
  intro json hJson
  rcases List.mem_map.mp hJson with ⟨v, _, rfl⟩
  apply Json.Textual.obj
  intro m hm
  simp only [List.mem_cons, List.not_mem_nil, or_false] at hm
  rcases hm with rfl | rfl
  · exact Json.Textual.str _
  · exact Json.Textual.str _

/- A vacation as a client would write it. -/
def vacationRequest (v : Vacation) : VacationRequest :=
  ⟨v.start.render, v.finish.render⟩

theorem decodeVacation_vacationJson
    (v : Vacation)
    (old : VacationRequest) :
    decodeVacation (vacationJson v) old = some (vacationRequest v) :=
  rfl

theorem elements_vacationJson
    (vacations : List Vacation) :
    Json.elements ⟨"", ""⟩ decodeVacation (vacations.map vacationJson) [] =
      some (vacations.map vacationRequest) := by
  induction vacations with
  | nil => rfl
  | cons v rest ih =>
      rw [List.map_cons, Json.elements, decodeVacation_vacationJson]
      simp only [List.tail_nil, ih]
      rfl

theorem decodeVacations_vacationJson
    (vacations : List Vacation) :
    decodeVacations (.arr (vacations.map vacationJson)) none =
      some (some (vacations.map vacationRequest)) := by
  cases vacations with
  | nil => rfl
  | cons v rest =>
      have hElements := elements_vacationJson (v :: rest)
      simp only [List.map_cons] at hElements
      simp only [decodeVacations, Json.list, Json.slots, List.map_cons, Option.getD_none,
        List.append_nil, hElements]
      rfl

theorem readPeriod_vacationRequest
    {v : Vacation}
    (h : v.Legible) :
    readPeriod (vacationRequest v) = .ok v := by
  simp only [readPeriod, vacationRequest, h.start, h.finish]

theorem mapM_readPeriod
    {vacations : List Vacation}
    (hLegible : ∀ v ∈ vacations, v.Legible) :
    (vacations.map vacationRequest).mapM readPeriod = .ok vacations := by
  induction vacations with
  | nil => rfl
  | cons v rest ih =>
      have hFirst := readPeriod_vacationRequest (hLegible v List.mem_cons_self)
      have hRest := ih (fun u hu => hLegible u (List.mem_cons_of_mem v hu))
      rw [List.map_cons, List.mapM_cons, hFirst]
      simp only [hRest]
      rfl

/- Vacations whose days read back are read from the text that they are stored as. -/
theorem readStoredVacations_vacationsText
    {vacations : List Vacation}
    (hLegible : ∀ v ∈ vacations, v.Legible) :
    readStoredVacations (some (vacationsText vacations)) = .ok vacations := by
  have hWhole :
      Json.whole (vacationsText vacations) =
        .ok (.arr (vacations.map vacationJson)) := by
    rw [vacationsText_eq]
    exact Json.whole_render (vacations_textual vacations) (by decide)
  simp only [readStoredVacations, hWhole, decodeVacations_vacationJson,
    Option.getD_some, mapM_readPeriod hLegible]

end Service

end Timetable
