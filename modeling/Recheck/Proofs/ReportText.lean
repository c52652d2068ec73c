import Recheck.Proofs.JsonText
import Recheck.Report.Format

/-!
The JSON of reports, of watch events and of faults. What is written is read as the document that
was meant, and the document is validated as the report without figures that were to be hidden.
An event is one line of printable ASCII, so joined events are told apart by their line feeds. A
number with more digits than can be spelled stops a report before anything is written.
-/

namespace Recheck.Proofs.ReportText

open Recheck.Proofs.JsonText

/-- A record has a position from one on and a code. -/
structure Valid (r : Record) : Prop where
  line : 1 ≤ r.line
  column : 1 ≤ r.column
  code : r.code ≠ []

/-- The report without the figures that are not shown. -/
def visible (report : Report) (showMetrics : Bool) : Report :=
  { report with metrics := report.shown showMetrics }

/-- All numbers of the report can be spelled. -/
def Spellable (report : Report) (showMetrics : Bool) : Prop :=
  ∀ n ∈ report.numbers showMetrics .json, Text.isSpellable n

/-- There is a text that is read as the document if the numbers in it can be spelled, and no text
otherwise. -/
def Decodes (text : Except Failure Text) (spellable : Prop) (document : Json) : Prop :=
  (spellable → ∃ t, text = .ok t ∧ Json.read? t = some document) ∧
    (¬ spellable → text = .error .unspellable)

section Documents

variable {α : Type} {key other : Text} {rule : Datum → Checked α} {fields : List (Text × Datum)}
  {d : Datum} {a : α}

theorem requiredField_of_lookup (hd : fields.lookup key = some d) (ha : rule d = .valid a) :
    requiredField key rule fields = .valid a := by
  simp [requiredField, hd, ha, Checked.inside]

theorem optionalField_of_lookup {absent : α} (hd : fields.lookup key = some d)
    (ha : rule d = .valid a) : optionalField key rule absent fields = .valid a := by
  simp [optionalField, hd, ha, Checked.inside]

theorem aliasedField_of_lookup (hd : fields.lookup key = some d) (ha : rule d = .valid a) :
    aliasedField key other rule fields = .valid a := by
  rw [aliasedField, if_neg (by simp [hd]), requiredField_of_lookup hd ha]

theorem itemsFrom_map {encode : α → Json} {items : List α}
    (h : ∀ a ∈ items, rule (Datum.ofJson (encode a)) = .valid a) (index : Nat) :
    Datum.itemsFrom rule index (Datum.ofItems (items.map encode)) = .valid items := by
  induction items generalizing index with
  | nil => rfl
  | cons a items ih =>
      obtain ⟨ha, hitems⟩ := List.forall_mem_cons.mp h
      rw [List.map_cons, Datum.ofItems, Datum.itemsFrom, ha, ih hitems]
      rfl

end Documents

theorem read_record {r : Record} (h : Valid r) :
    Record.read (Datum.ofJson r.toJson) = .valid r := by
  let fields : List (Text × Datum) := [("file", .text r.file), ("line", .int r.line),
    ("column", .int r.column), ("code", .text r.code), ("message", .text r.message),
    ("severity", .text r.severity.word)]
  have hplace {n : Int} (hn : 1 ≤ n) : Datum.asIntFrom 1 (.int n) = .valid n := by
    simp [Datum.asIntFrom, Datum.asInt, Checked.ensure, hn]
  have hfile : requiredField "file" Datum.asText fields = .valid r.file :=
    requiredField_of_lookup rfl rfl
  have hline : requiredField "line" (Datum.asIntFrom 1) fields = .valid r.line :=
    requiredField_of_lookup rfl (hplace h.line)
  have hcolumn : requiredField "column" (Datum.asIntFrom 1) fields = .valid r.column :=
    requiredField_of_lookup rfl (hplace h.column)
  have hcode : requiredField "code" (fun d => d.asText.ensure
      "String should have at least 1 character" (!·.isEmpty)) fields = .valid r.code :=
    requiredField_of_lookup rfl (by simp [Datum.asText, Checked.ensure, h.code])
  have hmessage : requiredField "message" Datum.asText fields = .valid r.message :=
    requiredField_of_lookup rfl rfl
  have hseverity : requiredField "severity" (Datum.asWord [("error", .error), ("warning", .warning)]
      "Input should be 'error' or 'warning'") fields = .valid r.severity :=
    requiredField_of_lookup rfl (by cases r.severity <;> rfl)
  have hread : Record.read (Datum.ofJson r.toJson) = Record.mk
      <$> requiredField "file" Datum.asText fields
      <*> requiredField "line" (Datum.asIntFrom 1) fields
      <*> requiredField "column" (Datum.asIntFrom 1) fields
      <*> requiredField "code" (fun d => d.asText.ensure "String should have at least 1 character"
        (!·.isEmpty)) fields
      <*> requiredField "message" Datum.asText fields
      <*> requiredField "severity" (Datum.asWord [("error", .error), ("warning", .warning)]
        "Input should be 'error' or 'warning'") fields := rfl
  rw [hread, hfile, hline, hcolumn, hcode, hmessage, hseverity]
  rfl

theorem read_metrics (m : Metrics) : Metrics.read (Datum.ofJson m.toJson) = .valid m := by
  let fields : List (Text × Datum) := [("checkTime", .int m.checkMillis),
    ("filesChecked", .int m.filesChecked), ("totalErrors", .int m.totalErrors)]
  have htime : aliasedField "checkTime" "check_time_ms" Datum.asInt fields = .valid m.checkMillis :=
    aliasedField_of_lookup rfl rfl
  have hfiles : aliasedField "filesChecked" "files_checked" Datum.asInt fields
      = .valid m.filesChecked := aliasedField_of_lookup rfl rfl
  have herrors : aliasedField "totalErrors" "total_errors" Datum.asInt fields
      = .valid m.totalErrors := aliasedField_of_lookup rfl rfl
  have hread : Metrics.read (Datum.ofJson m.toJson) = Metrics.mk
      <$> aliasedField "checkTime" "check_time_ms" Datum.asInt fields
      <*> aliasedField "filesChecked" "files_checked" Datum.asInt fields
      <*> aliasedField "totalErrors" "total_errors" Datum.asInt fields := rfl
  rw [hread, htime, hfiles, herrors]
  rfl

theorem toJson_of_not_shown {report : Report} {showMetrics : Bool}
    (h : report.shown showMetrics = none) :
    report.toJson showMetrics = .object [("errors", .array (report.errors.map Record.toJson))] := by
  cases showMetrics with
  | false => rfl
  | true =>
      have hnone : report.metrics = none := h
      simp [Report.toJson, hnone]

theorem toJson_of_shown {report : Report} {showMetrics : Bool} {m : Metrics}
    (h : report.shown showMetrics = some m) :
    report.toJson showMetrics = .object [("errors", .array (report.errors.map Record.toJson)),
      ("metrics", m.toJson)] := by
  cases showMetrics with
  | false => simp [Report.shown] at h
  | true =>
      have hsome : report.metrics = some m := h
      simp [Report.toJson, hsome]

theorem field?_metrics (report : Report) (showMetrics : Bool) :
    (report.toJson showMetrics).field? "metrics" =
      (report.shown showMetrics).map Metrics.toJson := by
  cases h : report.shown showMetrics with
  | none =>
      rw [toJson_of_not_shown h]
      rfl
  | some m =>
      rw [toJson_of_shown h]
      rfl

/-- The figures of a report, which may be missing. -/
def figures (d : Datum) : Checked (Option Metrics) :=
  match d with
  | .null => .valid none
  | d => some <$> Metrics.read d

theorem read_table {fields : List (Text × Datum)} {report : Report}
    (h : ∀ r ∈ report.errors, Valid r)
    (herrors : List.lookup ("errors" : Text) fields
      = some (Datum.ofJson (.array (report.errors.map Record.toJson))))
    (hmetrics : List.lookup ("metrics" : Text) fields
      = report.metrics.map fun m => Datum.ofJson m.toJson) :
    Report.read (.table fields) = .valid report := by
  have hrecords : optionalField "errors" (Datum.asList Record.read) [] fields
      = .valid report.errors :=
    optionalField_of_lookup herrors (itemsFrom_map (fun r hr => read_record (h r hr)) 0)
  have hfigures : optionalField "metrics" figures none fields = .valid report.metrics := by
    cases hm : report.metrics with
    | none =>
        rw [hm] at hmetrics
        rw [optionalField, hmetrics]
        rfl
    | some m =>
        rw [hm] at hmetrics
        have hread : figures (Datum.ofJson m.toJson) =
            some <$> Metrics.read (Datum.ofJson m.toJson) := rfl
        exact optionalField_of_lookup hmetrics (by rw [hread, read_metrics]; rfl)
  have hread : Report.read (.table fields) = Report.mk
      <$> optionalField "errors" (Datum.asList Record.read) [] fields
      <*> optionalField "metrics" figures none fields := rfl
  rw [hread, hrecords, hfigures]
  rfl

theorem read_report {report : Report} (h : ∀ r ∈ report.errors, Valid r) (showMetrics : Bool) :
    Report.read (Datum.ofJson (report.toJson showMetrics)) =
      .valid (visible report showMetrics) := by
  cases hshown : report.shown showMetrics with
  | none =>
      rw [toJson_of_not_shown hshown]
      have herrors : ∀ r ∈ (visible report showMetrics).errors, Valid r := h
      exact read_table herrors rfl (by rw [visible, hshown]; rfl)
  | some m =>
      rw [toJson_of_shown hshown]
      have herrors : ∀ r ∈ (visible report showMetrics).errors, Valid r := h
      exact read_table herrors rfl (by rw [visible, hshown]; rfl)

theorem read_event {event : WatchEvent} (h : ∀ r ∈ event.report.errors, Valid r)
    (showMetrics : Bool) :
    WatchEvent.read (Datum.ofJson (event.toJson showMetrics))
      = .valid { event with report := visible event.report showMetrics } := by
  let fields : List (Text × Datum) :=
    [("event", .text "check"), ("timestamp", .int event.timestamp),
    ("result", Datum.ofJson (event.report.toJson showMetrics))]
  have hkind : optionalField "event" WatchEvent.read.kindRule () fields = .valid () :=
    optionalField_of_lookup rfl rfl
  have htime : requiredField "timestamp" Datum.asInt fields = .valid event.timestamp :=
    requiredField_of_lookup rfl rfl
  have hresult : requiredField "result" Report.read fields
      = .valid (visible event.report showMetrics) :=
    requiredField_of_lookup rfl (read_report h showMetrics)
  have hread : WatchEvent.read (Datum.ofJson (event.toJson showMetrics))
      = (fun (_ : Unit) timestamp report => WatchEvent.mk timestamp report)
        <$> optionalField "event" WatchEvent.read.kindRule () fields
        <*> requiredField "timestamp" Datum.asInt fields
        <*> requiredField "result" Report.read fields := rfl
  rw [hread, hkind, htime, hresult]
  rfl

theorem whole_records (records : List Record) : WholeItems (records.map Record.toJson) := by
  induction records with
  | nil => trivial
  | cons r records ih => exact ⟨⟨trivial, trivial, trivial, trivial, trivial, trivial, trivial⟩, ih⟩

theorem whole_report (report : Report) (showMetrics : Bool) :
    Whole (report.toJson showMetrics) := by
  cases hshown : report.shown showMetrics with
  | none =>
      rw [toJson_of_not_shown hshown]
      exact ⟨whole_records report.errors, trivial⟩
  | some m =>
      rw [toJson_of_shown hshown]
      exact ⟨whole_records report.errors, ⟨trivial, trivial, trivial, trivial⟩, trivial⟩

theorem whole_event (event : WatchEvent) (showMetrics : Bool) : Whole (event.toJson showMetrics) :=
  ⟨trivial, trivial, whole_report event.report showMetrics, trivial⟩

theorem decodes_report (report : Report) (showMetrics : Bool) :
    Decodes (report.render? showMetrics .json) (Spellable report showMetrics)
      (report.toJson showMetrics) := by
  constructor
  · intro h
    refine ⟨report.json showMetrics, if_pos (List.all_eq_true.mpr h), ?_⟩
    exact read?_render .indented (whole_report report showMetrics)
  · intro h
    exact if_neg fun hall => h (List.all_eq_true.mp hall)

theorem line?_of_spellable {event : WatchEvent} {showMetrics : Bool}
    (h : Text.isSpellable event.timestamp ∧ Spellable event.report showMetrics) :
    event.line? showMetrics = .ok (event.line showMetrics) :=
  if_pos (List.all_eq_true.mpr (List.forall_mem_cons.mpr h))

theorem line?_of_not_spellable {event : WatchEvent} {showMetrics : Bool}
    (h : ¬ (Text.isSpellable event.timestamp ∧ Spellable event.report showMetrics)) :
    event.line? showMetrics = .error .unspellable :=
  if_neg fun hall => h (List.forall_mem_cons.mp (List.all_eq_true.mp hall))

theorem decodes_event (event : WatchEvent) (showMetrics : Bool) :
    Decodes (event.line? showMetrics)
      (Text.isSpellable event.timestamp ∧ Spellable event.report showMetrics)
      (event.toJson showMetrics) := by
  constructor
  · intro h
    refine ⟨event.line showMetrics, line?_of_spellable h, ?_⟩
    exact read?_render .compact (whole_event event showMetrics)
  · exact line?_of_not_spellable

theorem printable_line {event : WatchEvent} {showMetrics : Bool} {t : Text}
    (h : event.line? showMetrics = .ok t) : Printable t := by
  by_cases hs : Text.isSpellable event.timestamp ∧ Spellable event.report showMetrics
  · rw [line?_of_spellable hs] at h
    obtain rfl := Except.ok.inj h
    exact printable_render 0 _ (whole_event event showMetrics)
  · rw [line?_of_not_spellable hs] at h
    contradiction

theorem not_spellable_of_shown {report : Report} {m : Metrics} (h : report.shown true = some m)
    {n : Nat} (hn : m.checkMillis = n) (hlong : Nat.pow 10 Text.maxDigits ≤ n) :
    ¬ Spellable report true := by
  intro hs
  have hmem : (n : Int) ∈ report.numbers true .json := by simp [Report.numbers, h, hn]
  exact absurd (of_decide_eq_true (hs n hmem)) (Nat.not_lt.mpr hlong)

theorem read?_errorText (message : Text) :
    Json.read? (errorText message .json) = some (.object [("error", .text message)]) :=
  read?_render .indented ⟨trivial, trivial⟩

theorem lines_joined {texts : List Text} (h : ∀ t ∈ texts, Printable t) (hne : texts ≠ []) :
    Text.lines (List.intercalate ['\n'] texts) = texts := by
  refine List.splitOn_intercalate '\n' (fun t ht hline => ?_) hne
  exact absurd (h t ht '\n' hline).1 (by decide)

/-- The JSON of reports, of events and of faults is read as the documents that were meant, from
which the reports without hidden figures are found again; and events are lines. -/
theorem json_decodes :
    (∀ (report : Report) (showMetrics : Bool),
      Decodes (report.render? showMetrics .json) (Spellable report showMetrics)
          (report.toJson showMetrics) ∧
        (report.toJson showMetrics).field? "metrics"
          = (report.shown showMetrics).map Metrics.toJson ∧
        ((∀ r ∈ report.errors, Valid r) →
          Report.read (Datum.ofJson (report.toJson showMetrics))
            = .valid (visible report showMetrics))) ∧
    (∀ (event : WatchEvent) (showMetrics : Bool),
      Decodes (event.line? showMetrics)
          (Text.isSpellable event.timestamp ∧ Spellable event.report showMetrics)
          (event.toJson showMetrics) ∧
        ((∀ r ∈ event.report.errors, Valid r) →
          WatchEvent.read (Datum.ofJson (event.toJson showMetrics))
            = .valid { event with report := visible event.report showMetrics })) ∧
    (∀ message : Text,
      Json.read? (errorText message .json) = some (.object [("error", .text message)])) ∧
    (∀ texts : List Text,
      (∀ t ∈ texts, ∃ (event : WatchEvent) (showMetrics : Bool), event.line? showMetrics = .ok t) →
        (∀ t ∈ texts, Printable t) ∧
          (texts ≠ [] → Text.lines (List.intercalate ['\n'] texts) = texts)) := by
  refine ⟨?_, ?_, read?_errorText, ?_⟩
  · intro report showMetrics
    exact ⟨decodes_report report showMetrics, field?_metrics report showMetrics,
      fun h => read_report h showMetrics⟩
  · intro event showMetrics
    exact ⟨decodes_event event showMetrics, fun h => read_event h showMetrics⟩
  · intro texts h
    have hprintable : ∀ t ∈ texts, Printable t := by
      intro t ht
      obtain ⟨event, showMetrics, hline⟩ := h t ht
      exact printable_line hline
    exact ⟨hprintable, lines_joined hprintable⟩

/-- A report whose message holds a quote, a backslash, a line feed, two control characters and a
character that is spelled by two surrogates. -/
def garbled : Report :=
  { errors := [⟨"a.py", 1, 1, "c", ['"', '\\', '\n', '\x07', '\x7f', Char.ofNat 0x1F600], .warning⟩]
    metrics := some ⟨7, 1, 1⟩ }

theorem json_decodes_garbled :
    (∃ t, garbled.render? true .json = .ok t ∧ Json.read? t = some (garbled.toJson true)) ∧
      Report.read (Datum.ofJson (garbled.toJson false)) = .valid { garbled with metrics := none } ∧
      ∃ line, (WatchEvent.mk 5 garbled).line? true = .ok line ∧
        Text.lines (List.intercalate ['\n'] [line, line]) = [line, line] := by
  obtain ⟨hreports, hevents, -, htexts⟩ := json_decodes
  have hspellable : Spellable garbled true := by
    unfold Spellable
    decide +kernel
  have hvalid : ∀ r ∈ garbled.errors, Valid r := by
    intro r hr
    obtain rfl := List.mem_singleton.mp hr
    exact ⟨by decide, by decide, by decide⟩
  have hline : (WatchEvent.mk 5 garbled).line? true = .ok ((WatchEvent.mk 5 garbled).line true) :=
    line?_of_spellable ⟨by decide +kernel, hspellable⟩
  refine ⟨(hreports garbled true).1.1 hspellable, (hreports garbled false).2.2 hvalid, _, hline, ?_⟩
  refine (htexts _ fun t ht => ?_).2 (by simp)
  obtain rfl : t = (WatchEvent.mk 5 garbled).line true := by simpa using ht
  exact ⟨⟨5, garbled⟩, true, hline⟩

/-- A report of one error that took so many milliseconds. -/
def lasting (millis : Nat) : Report :=
  { errors := [⟨"a.py", 1, 1, "c", "x", .error⟩], metrics := some ⟨millis, 1, 1⟩ }

/-- A number may be too long to be written, and no lines at all are joined to an empty one. -/
theorem not_json_decodes_long :
    (∀ t, (lasting (Nat.pow 10 Text.maxDigits)).render? true .json ≠ .ok t) ∧
      Text.lines (List.intercalate ['\n'] []) ≠ [] := by
  refine ⟨fun t ht => ?_, by decide⟩
  rw [(decodes_report _ true).2 (not_spellable_of_shown rfl rfl (Nat.le_refl _))] at ht
  contradiction

end Recheck.Proofs.ReportText
