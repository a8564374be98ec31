import Timetable.Decimal.Layout
import Timetable.Metrics.Basic

/-
  This file lists the figures of a service by name and
  labels, and writes them as lines of text.

  Key definitions include:
    * `Sample`
    * `Series`
    * `Metrics.series`
    * `Metrics.exposition`
-/

namespace Timetable.Metrics

------------------------------------------------------------
-- Series
------------------------------------------------------------

/- A single number, or a histogram. -/
inductive Sample where
| value (x : Float) : Sample
| histogram (h : Histogram) : Sample
deriving Repr, Inhabited

/- A figure with its name and labels. -/
structure Series where
  name : String
  labels : List (String × String)
  sample : Sample
deriving Repr, Inhabited

/- A figure without labels. -/
private def single
    (name : String)
    (sample : Sample) : List Series :=
  [⟨name, [], sample⟩]

/- The figures of a name, one for each set of label values. -/
private def family
    {α : Type}
    (name : String)
    (labels : List String)
    (sample : α → Sample)
    (figures : Keyed α) : List Series :=
  figures.map (fun (key, a) => ⟨name, labels.zip key, sample a⟩)

/- The figures of a service in ascending order of name and label values. -/
def series (m : Metrics) : List Series :=
  let requestLabels := ["method", "path", "status"]
  single "cache_hit_ratio" (.value m.hitRatio) ++
    single "cache_hits_total" (.value (Float.ofNat m.cacheHits)) ++
    single "cache_latency_seconds" (.histogram m.cacheReads) ++
    single "cache_misses_total" (.value (Float.ofNat m.cacheMisses)) ++
    single "cache_write_seconds" (.histogram m.cacheWrites) ++
    family "db_query_duration_seconds" ["query"] .histogram m.queries ++
    family "http_request_duration_seconds" requestLabels .histogram m.requests ++
    family "http_requests_total" requestLabels
      (fun h => .value (Float.ofNat h.count)) m.requests ++
    family "study_plan_date_updates_total" ["result"] (fun n => .value n.toFloat)
      (match m.dateUpdates with
      | none => []
      | some (updated, failed) => [(["failed"], failed), (["updated"], updated)]) ++
    family "study_plan_generation_duration_seconds" ["mode"] .histogram
      m.generationTimes ++
    family "study_plan_generations_total" ["mode", "outcome"]
      (fun n => .value (Float.ofNat n)) m.generations ++
    single "study_plan_items" (.histogram m.planItems)

------------------------------------------------------------
-- Text
------------------------------------------------------------

/- A label value with backslashes, quotes and line ends escaped. -/
private def escapeLabel (s : String) : String :=
  String.join (s.toList.map (fun c =>
    if c == '\\' then "\\\\"
    else if c == '"' then "\\\""
    else if c == '\n' then "\\n"
    else c.toString))

/- Labels between braces, nothing when there are none. -/
private def labelText (labels : List (String × String)) : String :=
  if labels.isEmpty then ""
  else
    "\x7b" ++
      String.intercalate ","
        (labels.map (fun (k, v) => k ++ "=\"" ++ escapeLabel v ++ "\"")) ++
      "\x7d"

/- One line: name, labels, number. -/
private def sampleLine
    (name : String)
    (labels : List (String × String))
    (x : Float) : String :=
  name ++ labelText labels ++ " " ++ Decimal.Layout.sample.render x

/- The lines of a figure. -/
def Series.lines (s : Series) : List String :=
  match s.sample with
  | .value x => [sampleLine s.name s.labels x]
  | .histogram h =>
      h.buckets.map (fun (bound, n) =>
        sampleLine (s.name ++ "_bucket")
          (s.labels ++ [("le", Decimal.Layout.sample.render bound)]) (Float.ofNat n)) ++
        [sampleLine (s.name ++ "_bucket") (s.labels ++ [("le", "+Inf")])
            (Float.ofNat h.count),
          sampleLine (s.name ++ "_sum") s.labels h.sum,
          sampleLine (s.name ++ "_count") s.labels (Float.ofNat h.count)]

/- All figures as lines of text. -/
def exposition (m : Metrics) : List String :=
  m.series.flatMap (·.lines)

end Timetable.Metrics
