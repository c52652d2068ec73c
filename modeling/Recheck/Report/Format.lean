import Recheck.Json.Printer
import Recheck.Report
import Recheck.Report.Styled

/-!
# Formats of reports

A report is shown as JSON, as coloured text or as Markdown. All formats list the records in the
same order.
-/

namespace Recheck

inductive Format
  | json
  | human
  | markdown
  deriving DecidableEq, Repr

namespace Format

def name : Format → Text
  | json => "json"
  | human => "human"
  | markdown => "markdown"

def byName : List (Text × Format) := [json, human, markdown].map fun f => (f.name, f)

def named (name : Text) : Except Failure Format :=
  match byName.lookup name with
  | some format => .ok format
  | none => .error (.unknownFormat name)

end Format

namespace Report

def metricsText (m : Metrics) : Text :=
  "Checked " ++ Text.ofInt m.filesChecked ++ " file(s) in ".toList ++ Text.ofInt m.checkMillis
    ++ ['m', 's']

/-- The figures, if they are to be shown and were collected. -/
def shown (report : Report) (showMetrics : Bool) : Option Metrics :=
  if showMetrics then report.metrics else none

/-- The report as an indented JSON document. -/
def json (report : Report) (showMetrics : Bool) : Text :=
  (report.toJson showMetrics).indentedText

/-- The line of a record: position, code and message. -/
def recordLine (r : Record) : Text :=
  [' ', ' '] ++ Text.ofInt r.line ++ [':'] ++ Text.ofInt r.column ++ [' '] ++ r.code ++ [' ']
    ++ r.message

def recordStyle : Severity → Style
  | .error => .red
  | .warning => .yellow

/-- The pieces of a group: the file, its records, and an empty line. -/
def groupPieces (group : Text × List Record) : List Piece :=
  [⟨group.1, some .underline⟩, ⟨['\n'], none⟩]
    ++ group.2.flatMap (fun r =>
      [⟨recordLine r, some (recordStyle r.severity)⟩, ⟨['\n'], none⟩])
    ++ [⟨['\n'], none⟩]

/-- The pieces of the coloured text. -/
def pieces (report : Report) (showMetrics : Bool) : List Piece :=
  (match report.errors with
    | [] => [⟨"✓ No type errors found", some .green⟩]
    | errors =>
      ⟨"Found " ++ Text.ofNat errors.length ++ (if errors.length = 1 then " type error"
        else " type errors").toList ++ [':', '\n', '\n'], some .boldRed⟩
        :: (byFile errors).flatMap groupPieces)
    ++ match report.shown showMetrics with
      | some m => [⟨'\n' :: metricsText m, some .dim⟩]
      | none => []

def styled (report : Report) (showMetrics : Bool) : Styled :=
  (Styled.ofPieces (report.pieces showMetrics)).trimEnd

/-- The item of a record in a Markdown list. -/
def recordItem (r : Record) : Text :=
  "- **Line " ++ Text.ofInt r.line ++ ", Column ".toList ++ Text.ofInt r.column
    ++ "** (".toList ++ r.code ++ "): ".toList ++ r.message

def markdownLines (report : Report) (showMetrics : Bool) : List Text :=
  (match report.errors with
    | [] => [("## ✓ No type errors found" : Text)]
    | errors =>
      ("## Type Errors (" ++ Text.ofNat errors.length ++ [')']) :: []
        :: (byFile errors).flatMap fun group =>
          ("### " ++ group.1 : Text) :: [] :: group.2.map recordItem ++ [[]])
    ++ match report.shown showMetrics with
      | some m => [[], "---", ['*'] ++ metricsText m ++ ['*']]
      | none => []

def markdown (report : Report) (showMetrics : Bool) : Text :=
  Text.trim (List.intercalate ['\n'] (report.markdownLines showMetrics))

/-- The report in a format, without colour. -/
def render (report : Report) (showMetrics : Bool) : Format → Text
  | .json => report.json showMetrics
  | .human => (report.styled showMetrics).plain
  | .markdown => report.markdown showMetrics

/-- The whole numbers that a format shows of a report, the numbers of its items apart. -/
def numbers (report : Report) (showMetrics : Bool) (format : Format) : List Int :=
  report.errors.flatMap (fun r => [r.line, r.column])
    ++ match report.shown showMetrics, format with
      | some m, .json => [m.checkMillis, m.filesChecked, m.totalErrors]
      | some m, _ => [m.filesChecked, m.checkMillis]
      | none, _ => []

/-- The report in a format, without colour, unless it holds a number that cannot be spelled. -/
def render? (report : Report) (showMetrics : Bool) (format : Format) : Except Failure Text :=
  if (report.numbers showMetrics format).all Text.isSpellable then
    .ok (report.render showMetrics format)
  else .error .unspellable

end Report

def WatchEvent.line (event : WatchEvent) (showMetrics : Bool) : Text :=
  (event.toJson showMetrics).compactText

/-- The event as one line of JSON, unless it holds a number that cannot be spelled. -/
def WatchEvent.line? (event : WatchEvent) (showMetrics : Bool) : Except Failure Text :=
  if (event.timestamp :: event.report.numbers showMetrics .json).all Text.isSpellable then
    .ok (event.line showMetrics)
  else .error .unspellable

/-- The text that reports that a query could not run: a JSON object for programs, a sentence in
the other formats. -/
def errorText (message : Text) : Format → Text
  | .json => (Json.object [("error", .text message)]).indentedText
  | _ => "Error: " ++ message

end Recheck
