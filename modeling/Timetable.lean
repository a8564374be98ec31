import Timetable.Configuration.Basic
import Timetable.Http.Api
import Timetable.Http.Serve
import Timetable.Queue.Run
import Timetable.Text.Locale.Reading
import Timetable.Json.Written
import Timetable.Proofs.Action.Ids
import Timetable.Proofs.Action.Aside
import Timetable.Proofs.Plan.Numbering
import Timetable.Proofs.Store.Statements
import Timetable.Proofs.Service.Replacement
import Timetable.Proofs.Service.Dating
import Timetable.Proofs.Service.Content
import Timetable.Proofs.Service.Generation
import Timetable.Proofs.Store.Ownership
import Timetable.Proofs.Service.Atomicity
import Timetable.Proofs.Service.Outcome
import Timetable.Proofs.Service.Changes
import Timetable.Proofs.Store.Soundness
import Timetable.Proofs.Service.Reachability
import Timetable.Proofs.Store.Secrecy
import Timetable.Proofs.Records.Discretion
import Timetable.Proofs.Service.Discretion
import Timetable.Proofs.Http.Privacy
import Timetable.Proofs.Plan.Dating
import Timetable.Proofs.Store.Lookups
import Timetable.Proofs.Service.Days
import Timetable.Proofs.Queue.Steps
import Timetable.Proofs.Queue.Uniqueness
import Timetable.Proofs.Service.Recalculation
import Timetable.Proofs.Service.Deferral
import Timetable.Proofs.Calendar.Dates
import Timetable.Proofs.Json.RoundTrip
import Timetable.Proofs.Service.Vacations
import Timetable.Proofs.Service.Retrieval
import Timetable.Proofs.Service.StoredWeeks
import Timetable.Proofs.Service.Selections
import Timetable.Proofs.Service.ForgottenCatalog
import Timetable.Proofs.Service.Refusals
import Timetable.Proofs.Queue.Counting
import Timetable.Proofs.Queue.Traces
import Timetable.Proofs.Queue.Histories
import Timetable.Proofs.Queue.Settlement
import Timetable.Proofs.Service.Reduction
import Timetable.Proofs.Decimal.Bits
import Timetable.Proofs.Decimal.Numerals
import Timetable.Proofs.Json.Numbers
import Timetable.Proofs.Cache.Effects
import Timetable.Proofs.Cache.Forgetting
import Timetable.Proofs.Catalog.LessonCodec
import Timetable.Proofs.Service.Transparency
import Timetable.Proofs.Plan.Fronts
import Timetable.Proofs.Decimal.Comparison
import Timetable.Proofs.Plan.Weeks
import Timetable.Proofs.Plan.FrontOrder
import Timetable.Proofs.Plan.Placement
import Timetable.Proofs.Plan.Loads
import Timetable.Proofs.Action.Causes
import Timetable.Proofs.Records.Causes
import Timetable.Proofs.Service.Deadlines
import Timetable.Proofs.Order.StableSort
import Timetable.Proofs.Plan.SelectedDays
import Timetable.Proofs.Plan.WeekTables
import Timetable.Proofs.Plan.StudyOrder
import Timetable.Proofs.Plan.NextFit
import Timetable.Proofs.Service.FilterKeys
import Timetable.Proofs.Plan.VisitedWeeks
import Timetable.Proofs.Plan.FrontWeights
import Timetable.Proofs.Plan.Lanes
import Timetable.Proofs.Plan.FullWeeks
import Timetable.Proofs.Plan.Shares
import Timetable.Proofs.Plan.HalfLoad
import Timetable.Proofs.Service.FailedChoices
import Timetable.Proofs.Plan.SingleFront
import Timetable.Proofs.Plan.Turns
import Timetable.Proofs.Plan.DateInvariance
import Timetable.Proofs.Plan.Feasibility
import Timetable.Proofs.Plan.Remedy
import Timetable.Proofs.Text.Collation
import Timetable.Proofs.Plan.LessonOrder
import Timetable.Proofs.Export.Csv
import Timetable.Proofs.Export.PlanFile
import Timetable.Proofs.Plan.Figures
import Timetable.Proofs.Plan.Grouping
import Timetable.Proofs.Queue.Delays
import Timetable.Proofs.Records.Batches
