import Timetable.Failure
import Timetable.Json.Decode
import Timetable.Plan.Distribution
import Timetable.Text.Blank

/-
  This file defines the request for a new plan, and turns an
  acceptable one into the figures that a plan is made from.

  A request is first checked field by field; every field that
  fails is reported with the first rule that it breaks.

  Key definitions include:
    * `GenerateRequest`
    * `decodeRequest`
    * `GenerateRequest.complaints`
    * `GenerationInput`
    * `parseRequest`
    * `resolveOwner`
-/

namespace Timetable.Service

open Plan

------------------------------------------------------------
-- Requests
------------------------------------------------------------

/- A vacation as a client writes it. -/
structure VacationRequest where
  start : String
  finish : String
deriving DecidableEq, Repr

/- The request for a new plan. -/
structure GenerateRequest where
  ownerId : String := ""
  courseId : String := ""
  name : String := ""
  startDate : String := ""
  endDate : String := ""
  subjectIds : Option (List String) := none
  moduleIds : Option (List String) := none
  minPriority : Int := 0
  vacations : Option (List VacationRequest) := none
  daysPerWeek : Int := 0
  hoursPerDay : Float := 0
  mode : String := ""
  frontOrder : Option (List String) := none
  playbackSpeed : Float := 0
  excludeCompleted : Bool := false
deriving Repr

/- Read a vacation. -/
def decodeVacation : Json.Decoder VacationRequest :=
  Json.record
    [Json.field "start" Json.text (·.start) (fun r v => { r with start := v }),
      Json.field "end" Json.text (·.finish) (fun r v => { r with finish := v })]

/- Read a list of vacations. -/
def decodeVacations : Json.Decoder (Option (List VacationRequest)) :=
  Json.list ⟨"", ""⟩ decodeVacation

/- Read a request. -/
def decodeRequest : Json.Decoder GenerateRequest :=
  Json.record
    [Json.field "owner_id" Json.text (·.ownerId) (fun r v => { r with ownerId := v }),
      Json.field "course_id" Json.text (·.courseId) (fun r v => { r with courseId := v }),
      Json.field "name" Json.text (·.name) (fun r v => { r with name := v }),
      Json.field "start_date" Json.text (·.startDate)
        (fun r v => { r with startDate := v }),
      Json.field "end_date" Json.text (·.endDate) (fun r v => { r with endDate := v }),
      Json.textsField "subject_ids" (·.subjectIds)
        (fun r v => { r with subjectIds := v }),
      Json.textsField "module_ids" (·.moduleIds)
        (fun r v => { r with moduleIds := v }),
      Json.field "min_priority" Json.integer (·.minPriority)
        (fun r v => { r with minPriority := v }),
      Json.listField "vacations" ⟨"", ""⟩ decodeVacation (·.vacations)
        (fun r v => { r with vacations := v }),
      Json.field "days_per_week" Json.integer (·.daysPerWeek)
        (fun r v => { r with daysPerWeek := v }),
      Json.field "hours_per_day" Json.number (·.hoursPerDay)
        (fun r v => { r with hoursPerDay := v }),
      Json.field "mode" Json.text (·.mode) (fun r v => { r with mode := v }),
      Json.textsField "front_order" (·.frontOrder)
        (fun r v => { r with frontOrder := v }),
      Json.field "playback_speed" Json.number (·.playbackSpeed)
        (fun r v => { r with playbackSpeed := v }),
      Json.field "exclude_completed" Json.flag (·.excludeCompleted)
        (fun r v => { r with excludeCompleted := v })]

------------------------------------------------------------
-- Checking Fields
------------------------------------------------------------

/- A field that breaks a rule: its path, its own name, and the rule. -/
structure Complaint where
  path : String
  field : String
  rule : String
deriving DecidableEq, Repr

/- The wording of a complaint. -/
def Complaint.message (c : Complaint) : String :=
  "Key: 'GenerateStudyPlanRequest." ++ c.path ++
    "' Error:Field validation for '" ++ c.field ++ "' failed on the '" ++ c.rule ++ "' tag"

/- The first of some rules that is broken. -/
def firstBroken
    (path field : String)
    (rules : List (String × Bool)) : List Complaint :=
  match rules.find? (fun r => !r.2) with
  | some (rule, _) => [⟨path, field, rule⟩]
  | none => []

/- Complaints about a field of the request itself. -/
def check
    (field : String)
    (rules : List (String × Bool)) : List Complaint :=
  firstBroken field field rules

/- The name of an element of a list. -/
private def elementName
    (field : String)
    (i : Nat) : String :=
  field ++ "[" ++ toString i ++ "]"

/- Every text of a list has to be given. -/
def checkTexts
    (field : String)
    (texts : List String) : List Complaint :=
  texts.zipIdx.flatMap (fun (s, i) => check (elementName field i) [("required", s != "")])

/- A text is a date. -/
private def isDate (s : String) : Bool :=
  (Date.read? s).isSome

/- The rules for a date that has to be given. -/
private def dateRules (s : String) : List (String × Bool) :=
  [("required", s != ""), ("datetime", isDate s)]

/- Complaints about a vacation. -/
private def checkVacation
    (i : Nat)
    (v : VacationRequest) : List Complaint :=
  let path := elementName "Vacations" i
  firstBroken (path ++ ".Start") "Start" (dateRules v.start) ++
    firstBroken (path ++ ".End") "End" (dateRules v.finish)

/- Complaints about the subjects, which have to be given. -/
def checkSubjects : Option (List String) → List Complaint
| none => check "SubjectIDs" [("required", false)]
| some [] => check "SubjectIDs" [("min", false)]
| some ids => checkTexts "SubjectIDs" ids

/- All complaints about a request, in the order of its fields. -/
def GenerateRequest.complaints (r : GenerateRequest) : List Complaint :=
  check "OwnerID" [("required", r.ownerId != "")] ++
    check "Name" [("max", decide (r.name.length ≤ 120))] ++
    check "StartDate" (dateRules r.startDate) ++
    check "EndDate" (dateRules r.endDate) ++
    checkSubjects r.subjectIds ++
    checkTexts "ModuleIDs" (r.moduleIds.getD []) ++
    check "MinPriority"
      [("required", decide (r.minPriority ≠ 0)), ("min", decide (1 ≤ r.minPriority))] ++
    (r.vacations.getD []).zipIdx.flatMap (fun (v, i) => checkVacation i v) ++
    check "DaysPerWeek"
      [("required", decide (r.daysPerWeek ≠ 0)), ("min", decide (1 ≤ r.daysPerWeek)),
        ("max", decide (r.daysPerWeek ≤ 7))] ++
    check "HoursPerDay"
      [("required", r.hoursPerDay != 0), ("gt", decide (0 < r.hoursPerDay)),
        ("lte", decide (r.hoursPerDay ≤ 24))] ++
    check "Mode"
      [("required", r.mode != ""), ("oneof", (Mode.ofName? r.mode).isSome)] ++
    checkTexts "FrontOrder" (r.frontOrder.getD []) ++
    check "PlaybackSpeed"
      [("gt", r.playbackSpeed == 0 || decide (0 < r.playbackSpeed)),
        ("lte", decide (r.playbackSpeed ≤ 4))]

------------------------------------------------------------
-- Reading the Figures
------------------------------------------------------------

/- The figures that a plan is made from. -/
structure GenerationInput where
  start : Date
  finish : Date
  vacations : List Vacation
  mode : Mode
  speed : Float
deriving Repr

/- A request that is not acceptable. -/
private def invalid (message : String) : Failure :=
  .because .validation message

/- Read a date of a request. -/
def readDate
    (name text : String) : Except Failure Date :=
  match Date.read? text with
  | some d => .ok d
  | none => .error (invalid (name ++ " must use YYYY-MM-DD"))

/- Read the vacations of a request; each has to end no earlier than it starts. -/
def readVacations :
    Nat → List VacationRequest → Except Failure (List Vacation)
| _, [] => .ok []
| i, v :: rest => do
    let name := "vacations[" ++ toString i ++ "]"
    let start ← readDate (name ++ ".start") v.start
    let finish ← readDate (name ++ ".end") v.finish
    if finish < start then
      throw (invalid (name ++ " ends before it starts"))
    let rest ← readVacations (i + 1) rest
    return ⟨start, finish⟩ :: rest

/- Turn an acceptable request into its figures. -/
def parseRequest (r : GenerateRequest) : Except Failure GenerationInput := do
  let complaints := r.complaints
  unless complaints.isEmpty do
    throw (.wrap .validation "invalid study plan payload"
      (.plain (String.intercalate "\n" (complaints.map (·.message)))))
  let start ← readDate "start_date" r.startDate
  let finish ← readDate "end_date" r.endDate
  unless start < finish do
    throw (invalid "end_date must be after start_date")
  let vacations ← readVacations 0 (r.vacations.getD [])
  match Mode.ofName? r.mode with
  | none => throw (invalid "mode must be parallel or sequential")
  | some mode =>
      return {
        start := start
        finish := finish
        vacations := vacations
        mode := mode
        speed := if r.playbackSpeed == 0 then 1 else r.playbackSpeed }

/- The owner of the new plan, who has to be the one who asks for it. -/
def resolveOwner (requester owner : String) : Except Failure String :=
  if requester == "" then .error (.problem .unauthorized)
  else if owner != requester then
    .error (invalid "owner_id must match the authenticated user")
  else .ok owner

end Timetable.Service
