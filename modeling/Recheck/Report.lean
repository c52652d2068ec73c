import Recheck.Grouping
import Recheck.Validation

/-!
# Reports

The result of a query: records of errors with one-based positions and paths from the project
root, and on request a few figures about the query. A watch event is a report with a time.
-/

namespace Recheck

inductive Severity
  | error
  | warning
  deriving DecidableEq, Repr

/-- An error or warning as consumers see it. -/
structure Record where
  file : Text
  line : Int
  column : Int
  code : Text
  message : Text
  severity : Severity
  deriving DecidableEq, Repr

/-- Duration and size of a query. -/
structure Metrics where
  checkMillis : Int
  filesChecked : Int
  totalErrors : Int
  deriving DecidableEq, Repr

structure Report where
  errors : List Record := []
  metrics : Option Metrics := none
  deriving DecidableEq, Repr

/-- The report of one watch cycle, with the time in milliseconds since the epoch. -/
structure WatchEvent where
  timestamp : Int
  report : Report
  deriving DecidableEq, Repr

namespace Severity

def word : Severity → Text
  | error => "error"
  | warning => "warning"

end Severity

namespace Record

def toJson (r : Record) : Json :=
  .object [("file", .text r.file), ("line", .int r.line), ("column", .int r.column),
    ("code", .text r.code), ("message", .text r.message), ("severity", .text r.severity.word)]

/-- A record has a position from one on and a code. -/
def read (d : Datum) : Checked Record :=
  match d.asTable "DiagnosticRecord" with
  | .problems p => .problems p
  | .valid fields =>
    Record.mk
      <$> requiredField "file" Datum.asText fields
      <*> requiredField "line" (Datum.asIntFrom 1) fields
      <*> requiredField "column" (Datum.asIntFrom 1) fields
      <*> requiredField "code" (fun d => d.asText.ensure "String should have at least 1 character"
        (!·.isEmpty)) fields
      <*> requiredField "message" Datum.asText fields
      <*> requiredField "severity" (Datum.asWord [("error", .error), ("warning", .warning)]
        "Input should be 'error' or 'warning'") fields

end Record

namespace Metrics

/-- The figures under their public names. -/
def toJson (m : Metrics) : Json :=
  .object [("checkTime", .int m.checkMillis), ("filesChecked", .int m.filesChecked),
    ("totalErrors", .int m.totalErrors)]

/-- Figures are whole numbers under their public or their long names. -/
def read (d : Datum) : Checked Metrics :=
  match d.asTable "CheckMetrics" with
  | .problems p => .problems p
  | .valid fields =>
    Metrics.mk
      <$> aliasedField "checkTime" "check_time_ms" Datum.asInt fields
      <*> aliasedField "filesChecked" "files_checked" Datum.asInt fields
      <*> aliasedField "totalErrors" "total_errors" Datum.asInt fields

end Metrics

namespace Report

def byFile (errors : List Record) : List (Text × List Record) := groupBy Record.file errors

/-- The records, and the figures if they were collected and are to be shown. -/
def toJson (report : Report) (showMetrics : Bool) : Json :=
  .object (("errors", .array (report.errors.map Record.toJson)) ::
    match showMetrics, report.metrics with
    | true, some m => [("metrics", m.toJson)]
    | _, _ => [])

/-- A report has a list of records, empty in its absence, and may have figures. -/
def read (d : Datum) : Checked Report :=
  match d.asTable "CheckResult" with
  | .problems p => .problems p
  | .valid fields =>
    Report.mk
      <$> optionalField "errors" (Datum.asList Record.read) [] fields
      <*> optionalField "metrics" (fun d => match d with
        | .null => .valid none
        | d => some <$> Metrics.read d) none fields

end Report

namespace WatchEvent

def toJson (event : WatchEvent) (showMetrics : Bool) : Json :=
  .object [("event", .text "check"), ("timestamp", .int event.timestamp),
    ("result", event.report.toJson showMetrics)]

/-- An event has a time and a report; the only kind of event is a check. -/
def read (d : Datum) : Checked WatchEvent :=
  match d.asTable "WatchEvent" with
  | .problems p => .problems p
  | .valid fields =>
    let has (key : Text) : Bool := (fields.lookup key).isSome
    (fun (_ : Unit) timestamp report => WatchEvent.mk timestamp report)
      <$> (if has "kind" && !has "event" then
          requiredField "kind" kindRule fields
        else optionalField "event" kindRule () fields)
      <*> requiredField "timestamp" Datum.asInt fields
      <*> requiredField "result" Report.read fields
where
  kindRule : Datum → Checked Unit := Datum.asWord [("check", ())] "Input should be 'check'"

end WatchEvent

end Recheck
