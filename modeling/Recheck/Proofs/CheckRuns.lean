import Recheck.Proofs.FailedQueries
import Recheck.Proofs.Measurements
import Recheck.Proofs.RecordPlaces

/-!
Runs of the check commands. The verdict is the failure or the records that a query ends with. It
decides how the run ends, and the flags for the output have no part in it: they choose what is
written of it. Only figures that cannot be had come between, and a stream that does not take what is
written.
-/

namespace Recheck.Proofs.CheckRuns

open Recheck.Cli
open Recheck.Proofs.Activities
open Recheck.Proofs.Measurements
open Recheck.Proofs.RecordPlaces

variable {σ : Type}

def request (p : Project σ) (disk : Disk) : Query → Activity σ Request
  | .file path => pure (.single (Path.tidy path))
  | .changed => Request.changed <$> Change.changedFiles p p.config.settings.extensions disk
  | .all => pure .whole

theorem outcome_query (p : Project σ) (disk : Disk) (query : Query) (s : Session σ) :
    outcome (query.run p disk) s = outcome (request p disk query >>= p.run disk) s := by
  cases query with
  | file path => rfl
  | all => rfl
  | changed =>
      unfold Query.run request Project.checkChanged
      rw [outcome_bind, outcome_bind, outcome_map]
      rcases outcome (Change.changedFiles p p.config.settings.extensions disk) s with
        ⟨failure | files, s'⟩ <;> rfl

/-- The milliseconds between the two readings of the clock that a query with figures makes: when
its request is known, and after all else. -/
def elapsed (p : Project σ) (disk : Disk) (query : Query) (w : σ) : Except Number.Fault Int :=
  (p.tools.tick (outcome (request p disk query) { world := w }).2.world).1.elapsedMillis
    (p.tools.tick (outcome (query.run (withFigures p false) disk) { world := w }).2.world).1

theorem elapsed_withFigures (p : Project σ) (figures : Bool) (disk : Disk) (query : Query)
    (w : σ) : elapsed (withFigures p figures) disk query w = elapsed p disk query w := by
  cases query <;> rfl

theorem measured_query (p : Project σ) (disk : Disk) (query : Query) (s : Session σ) :
    Measured p.tools (p.tools.tick (outcome (request p disk query) s).2.world).1
      (outcome (query.run (withFigures p false) disk) s)
      (outcome (query.run (withFigures p true) disk) s) := by
  have hrequest : ∀ figures, request (withFigures p figures) disk query = request p disk query := by
    intro figures
    cases query <;> rfl
  rw [outcome_query, outcome_query, hrequest, hrequest, outcome_bind, outcome_bind]
  rcases outcome (request p disk query) s with ⟨failure | asked, s'⟩
  · exact .failed failure s'
  · exact measured_run p disk asked s'

theorem spelled_of_query {p : Project σ} {disk : Disk} {query : Query} {w : σ} {report : Report}
    (h : (outcome (query.run p disk) { world := w }).1 = .ok report) : Spelled report.errors := by
  -- A run starts without a program at hand.
  have hfresh : ∀ s : Session σ, s.build = none → PlacedAtHand s := by
    intro s hs b hb
    cases hs.symm.trans hb
  rw [outcome_query, outcome_bind] at h
  cases query with
  | file path => exact spelled_of_run (hfresh _ rfl) h
  | all => exact spelled_of_run (hfresh _ rfl) h
  | changed =>
      have hkept := FailedQueries.keeps_changedFiles p p.config.settings.extensions disk
        { world := w }
      rw [request, outcome_map] at h
      rcases hfiles : outcome (Change.changedFiles p p.config.settings.extensions disk)
        { world := w } with ⟨failure | files, s⟩
      · rw [hfiles] at h
        cases h
      · rw [hfiles] at h hkept
        exact spelled_of_run (hfresh s hkept.2) h

/-- The project that an invocation is about, without figures. -/
def opened (w : Workplace σ) (disk : Disk) (project : Text) (noCache : Bool) :
    Except Failure (Project σ) × List Entry :=
  let (answer, entries) := Project.openAt disk (Path.tidy project)
    (fun settings => noCache || settings.noCache) id (fun _ => false) w.parsed w.tools
  (answer.map (·.1), entries)

theorem openProject_cases (w : Workplace σ) (disk : Disk) (i : Invocation) :
    (∃ failure entries, opened w disk i.project i.flags.noCache = (.error failure, entries) ∧
      w.openProject disk i = (.error failure, entries)) ∨
    ∃ p entries, p.tools = w.tools ∧ opened w disk i.project i.flags.noCache = (.ok p, entries) ∧
      w.openProject disk i = (.ok (withFigures p (i.flags.over p.config.settings).metrics,
        i.flags.over p.config.settings), entries) := by
  unfold opened Workplace.openProject Project.openAt
  cases Config.load disk (Path.join w.tools.directory (Path.tidy i.project)) with
  | error failure => exact .inl ⟨failure, [], rfl, rfl⟩
  | ok loaded =>
      obtain ⟨config, entry⟩ := loaded
      have hcache : (i.flags.over config.settings).noCache =
          (i.flags.noCache || config.settings.noCache) := rfl
      simp only [Project.ofConfig, hcache, id]
      cases CompilerOptions.load config (i.flags.noCache || config.settings.noCache) w.parsed with
      | error failure => exact .inl ⟨failure, [entry], rfl, rfl⟩
      | ok options => exact .inr ⟨_, [entry, options.2], rfl, rfl, rfl⟩

/-- What an invocation comes to: the report of its query, or why there is none. -/
def answer (w : Workplace σ) (disk : Disk) (query : Query) (i : Invocation) :
    Except Failure Report := do
  let (p, _) ← (w.openProject disk i).1
  (outcome (query.run p disk) { world := w.world }).1

/-- The failure or the records that an invocation ends with. -/
def verdict (w : Workplace σ) (disk : Disk) (query : Query) (i : Invocation) :
    Except Failure (List Record) := (answer w disk query i).map (·.errors)

/-- The most elements that a list can have. -/
def maxLength : Nat := 2 ^ 63 - 1

/-- The figures of an invocation can be had: the milliseconds that its query takes are a number, and
the files and the errors that its report counts are those of lists. -/
structure Figured (w : Workplace σ) (disk : Disk) (query : Query) (i : Invocation) : Prop where
  finite : ∀ p o entries, w.openProject disk i = (.ok (p, o), entries) → o.metrics = true →
    ∃ millis, elapsed p disk query w.world = .ok millis
  counted : ∀ report m, answer w disk query i = .ok report → report.metrics = some m →
    m.filesChecked.natAbs ≤ maxLength ∧ m.totalErrors.natAbs ≤ maxLength

theorem Figured.of_eq {w : Workplace σ} {disk : Disk} {query : Query} {i : Invocation}
    {p : Project σ} {o : RunOptions} {entries : List Entry} {report : Report} (millis : Int)
    (hopen : w.openProject disk i = (.ok (p, o), entries))
    (hmillis : elapsed p disk query w.world = .ok millis)
    (hanswer : answer w disk query i = .ok report)
    (hcounted : ∀ m, report.metrics = some m →
      m.filesChecked.natAbs ≤ maxLength ∧ m.totalErrors.natAbs ≤ maxLength) :
    Figured w disk query i where
  finite _ _ _ hopen' _ := by
    cases hopen.symm.trans hopen'
    exact ⟨millis, hmillis⟩
  counted _ m hanswer' hm := by
    cases hanswer.symm.trans hanswer'
    exact hcounted m hm

theorem verdict_eq {w : Workplace σ} {disk : Disk} {query : Query} {i : Invocation}
    (h : Figured w disk query i) :
    verdict w disk query i = (opened w disk i.project i.flags.noCache).1 >>= fun p =>
      (outcome (query.run (withFigures p false) disk) { world := w.world }).1.map (·.errors) := by
  unfold verdict answer
  rcases openProject_cases w disk i with ⟨failure, entries, hopened, hopen⟩ |
    ⟨p, entries, -, hopened, hopen⟩
  · rw [hopened, hopen]
    rfl
  · have hfinite := h.finite _ _ _ hopen
    rw [hopened, hopen]
    change (outcome (query.run (withFigures p (i.flags.over p.config.settings).metrics) disk)
      { world := w.world }).1.map (·.errors) = _
    -- The clock can be read once more only where figures are asked for.
    cases hmetrics : (i.flags.over p.config.settings).metrics with
    | false => rfl
    | true =>
        obtain ⟨millis, hmillis⟩ := hfinite hmetrics
        rw [elapsed_withFigures] at hmillis
        exact (measured_query p disk query { world := w.world }).errors hmillis

def merged (w : Workplace σ) (disk : Disk) (i : Invocation) : Except Failure RunOptions :=
  (w.openProject disk i).1.map (·.2)

theorem check_cases (w : Workplace σ) (disk : Disk) (query : Query) (i : Invocation) :
    (∃ failure entries format, answer w disk query i = .error failure ∧
      (w.check disk i query).1 = w.failedRun i.verbose entries format failure) ∨
    ∃ p o opening entries report, w.openProject disk i = (.ok (p, o), opening) ∧
      (outcome (query.run p disk) { world := w.world }).1 = .ok report ∧
      (w.check disk i query).1 = w.reportedRun i.verbose entries o report := by
  unfold Workplace.check answer
  rcases hopen : w.openProject disk i with ⟨failure | ⟨p, o⟩, opening⟩
  · exact .inl ⟨failure, opening, _, rfl, rfl⟩
  · change (∃ failure entries format,
        (outcome (query.run p disk) { world := w.world }).1 = .error failure ∧ _) ∨ _
    rcases hrun : outcome (query.run p disk) { world := w.world } with ⟨failure | report, s⟩
    · refine .inl ⟨failure, opening ++ entriesOf s.notes, o.output, rfl, ?_⟩
      change (query.run p disk).run.run { world := w.world } = _ at hrun
      simp only [hrun]
    · refine .inr ⟨p, o, opening, opening ++ entriesOf s.notes, report, rfl, by rw [hrun], ?_⟩
      change (query.run p disk).run.run { world := w.world } = _ at hrun
      simp only [hrun]

theorem results_append (before after : List Writing) (ending : Ending) :
    Run.results ⟨before ++ after, ending⟩ =
      Run.results ⟨before, ending⟩ ++ Run.results ⟨after, ending⟩ :=
  List.flatMap_append

theorem results_writeEntries (w : Workplace σ) (verbose : Bool) (entries : List Entry)
    (ending : Ending) : Run.results ⟨w.writeEntries verbose entries, ending⟩ = [] := by
  rw [Run.results, List.flatMap_eq_nil_iff]
  intro written hwritten
  obtain ⟨entry, -, rfl⟩ := List.mem_map.mp hwritten
  rfl

theorem results_failedRun (w : Workplace σ) (verbose : Bool) (entries : List Entry)
    (format : Format) (failure : Failure) :
    (w.failedRun verbose entries format failure).results = [] := by
  unfold Workplace.failedRun
  split
  · rw [results_append, results_writeEntries]
    rfl
  · exact results_writeEntries w verbose entries _

theorem ending_failedRun (w : Workplace σ) (verbose : Bool) (entries : List Entry)
    (format : Format) (failure : Failure) :
    (w.failedRun verbose entries format failure).ending =
      if failure.isHandled then .fault else .broken failure := by
  unfold Workplace.failedRun
  split <;> rfl

theorem shownLines_ne_nil (format : Format) (t : Text) : shownLines format t ≠ [] := by
  cases format <;> simp [shownLines, consoleLines, plainLine]

/-- No figure has too many digits. -/
def Short (m : Metrics) : Prop :=
  Text.isSpellable m.checkMillis ∧ Text.isSpellable m.filesChecked ∧ Text.isSpellable m.totalErrors

theorem isSpellable_length {n : Int} (h : n.natAbs ≤ maxLength) : Text.isSpellable n = true := by
  have hmost : maxLength < 2 ^ 63 := by decide
  exact isSpellable_of_lt (by decide) (h.trans_lt hmost)

theorem short_of_figured {w : Workplace σ} {disk : Disk} {query : Query} {i : Invocation}
    (hclock : Timed w.tools) (h : Figured w disk query i) {report : Report}
    (hreport : answer w disk query i = .ok report) {m : Metrics} (hm : report.metrics = some m) :
    Short m := by
  obtain ⟨hfiles, htotal⟩ := h.counted report m hreport hm
  refine ⟨?_, isSpellable_length hfiles, isSpellable_length htotal⟩
  rcases openProject_cases w disk i with ⟨failure, entries, -, hopen⟩ |
    ⟨p, entries, htools, -, hopen⟩
  · rw [answer, hopen] at hreport
    cases hreport
  · rw [answer, hopen] at hreport
    change (outcome (query.run (withFigures p (i.flags.over p.config.settings).metrics) disk)
      { world := w.world }).1 = .ok report at hreport
    have hmeasured := measured_query p disk query { world := w.world }
    cases hmetrics : (i.flags.over p.config.settings).metrics with
    | false =>
        rw [hmetrics] at hreport
        cases hm.symm.trans (hmeasured.not_figured hreport)
    | true =>
        rw [hmetrics] at hreport
        have hmillis := hmeasured.checkMillis hreport hm
        obtain ⟨start, hstart⟩ :=
          hclock (outcome (request p disk query) { world := w.world }).2.world
        obtain ⟨now, hnow⟩ :=
          hclock (outcome (query.run (withFigures p false) disk) { world := w.world }).2.world
        rw [htools, hstart, hnow] at hmillis
        exact isSpellable_elapsedMillis hmillis

theorem spellable_numbers {report : Report} (hspelled : Spelled report.errors)
    (hshort : ∀ m, report.metrics = some m → Short m) (showMetrics : Bool) (format : Format) :
    (report.numbers showMetrics format).all Text.isSpellable := by
  rw [List.all_eq_true]
  intro n hn
  rcases List.mem_append.mp hn with hn | hn
  · obtain ⟨r, hr, hplace⟩ := List.mem_flatMap.mp hn
    obtain ⟨hline, hcolumn⟩ := hspelled r hr
    simp only [List.mem_cons, List.not_mem_nil, or_false] at hplace
    rcases hplace with rfl | rfl
    · exact hline
    · exact hcolumn
  · cases hshown : report.shown showMetrics with
    | none => simp [hshown] at hn
    | some m =>
        have hm : report.metrics = some m := by
          cases showMetrics <;> simp [Report.shown] at hshown
          exact hshown
        obtain ⟨hmillis, hfiles, htotal⟩ := hshort m hm
        cases format <;> simp only [hshown, List.mem_cons, List.not_mem_nil, or_false] at hn <;>
          grind

/-- What is written of a report. -/
def shownText (o : RunOptions) (report : Report) : Text :=
  if o.shows report then shownLines o.output (report.render o.metrics o.output) else []

/-- The stream for results takes what is written of a report. -/
def Takes (e : Environment) (o : RunOptions) (report : Report) : Prop :=
  o.shows report = true →
    e.refusal? o.output (shownLines o.output (report.render o.metrics o.output)) = none

theorem writeShown_eq {e : Environment} {o : RunOptions} {report : Report}
    (h : (report.numbers o.metrics o.output).all Text.isSpellable) (htakes : Takes e o report) :
    o.writeShown e report = .ok (if o.shows report then
      [.result (shownLines o.output (report.render o.metrics o.output))] else []) := by
  unfold RunOptions.writeShown
  split
  · next hshows =>
      have hrender : report.render? o.metrics o.output =
          .ok (report.render o.metrics o.output) := if_pos h
      rw [writeReport, hrender]
      change (e.writeResult o.output _).map _ = _
      rw [Environment.writeResult, htakes hshows]
      rfl
  · rfl

theorem reportedRun_eq {w : Workplace σ} {o : RunOptions} {report : Report}
    (h : (report.numbers o.metrics o.output).all Text.isSpellable)
    (htakes : Takes w.environment o report) (verbose : Bool) (entries : List Entry) :
    (w.reportedRun verbose entries o report).results = shownText o report ∧
      (w.reportedRun verbose entries o report).ending =
        if report.errors.isEmpty then .clean else .findings := by
  unfold Workplace.reportedRun shownText
  rw [writeShown_eq h htakes]
  refine ⟨?_, rfl⟩
  dsimp only
  rw [results_append, results_writeEntries]
  split <;> simp [Run.results]

/-- A run tells what its query came to. It ends with a code, and writes the report unless it is
told to keep quiet about a clean project; a run that failed writes no result. Where the query was
interrupted, so is the run. -/
structure Tells (w : Workplace σ) (disk : Disk) (query : Query) (i : Invocation) : Prop where
  fault_iff : (w.check disk i query).1.ending.code = 2 ↔
    ∃ failure, answer w disk query i = .error failure ∧ failure.isHandled = true
  code : ∀ report, answer w disk query i = .ok report →
    (w.check disk i query).1.ending.code = if report.errors.isEmpty then 0 else 1
  interrupted : ∀ failure, answer w disk query i = .error failure → failure.isHandled = false →
    (w.check disk i query).1.ending = .broken failure
  silent : (w.check disk i query).1.ending.code = 2 → (w.check disk i query).1.results = []
  written : ∀ o report, merged w disk i = .ok o → answer w disk query i = .ok report →
    (w.check disk i query).1.results = shownText o report
  quiet_iff : (w.check disk i query).1.ending.code = 0 →
    ((w.check disk i query).1.results = [] ↔ ∃ o, merged w disk i = .ok o ∧ o.quiet = true)

/-- The stream for results takes what an invocation writes of its report. -/
def Accepted (w : Workplace σ) (disk : Disk) (query : Query) (i : Invocation) : Prop :=
  ∀ o report, merged w disk i = .ok o → answer w disk query i = .ok report →
    Takes w.environment o report

/-- How a run ends with a verdict. -/
def endingOf : Except Failure (List Record) → Ending
  | .error failure => if failure.isHandled then .fault else .broken failure
  | .ok records => if records.isEmpty then .clean else .findings

theorem code_endingOf_error (failure : Failure) :
    (endingOf (.error failure)).code = if failure.isHandled then 2 else 1 := by
  unfold endingOf
  dsimp only
  split <;> rfl

theorem code_endingOf_ok (records : List Record) :
    (endingOf (.ok records)).code = if records.isEmpty then 0 else 1 := by
  unfold endingOf
  dsimp only
  split <;> rfl

section Runs

variable {w : Workplace σ} {disk : Disk} {query : Query} {i : Invocation}

theorem run_cases (hclock : Timed w.tools) (h : Figured w disk query i)
    (hout : Accepted w disk query i) :
    (∃ failure, answer w disk query i = .error failure ∧
      (w.check disk i query).1.ending = endingOf (.error failure) ∧
      (w.check disk i query).1.results = []) ∨
    ∃ o report, merged w disk i = .ok o ∧ answer w disk query i = .ok report ∧
      (w.check disk i query).1.ending = endingOf (.ok report.errors) ∧
      (w.check disk i query).1.results = shownText o report := by
  rcases check_cases w disk query i with ⟨failure, entries, format, hanswer, hrun⟩ |
    ⟨p, o, opening, entries, report, hopen, hreport, hrun⟩
  · rw [hrun]
    exact .inl ⟨failure, hanswer, ending_failedRun .., results_failedRun ..⟩
  · have hanswer : answer w disk query i = .ok report := by
      rw [answer, hopen]
      exact hreport
    have hmerged : merged w disk i = .ok o := by
      rw [merged, hopen]
      rfl
    have hspellable := spellable_numbers (spelled_of_query hreport)
      (fun m hm => short_of_figured hclock h hanswer hm) o.metrics o.output
    obtain ⟨hresults, hending⟩ :=
      reportedRun_eq hspellable (hout o report hmerged hanswer) i.verbose entries
    rw [hrun]
    exact .inr ⟨o, report, hmerged, hanswer, hending, hresults⟩

theorem ending_eq (hclock : Timed w.tools) (h : Figured w disk query i)
    (hout : Accepted w disk query i) :
    (w.check disk i query).1.ending = endingOf (verdict w disk query i) := by
  unfold verdict
  rcases run_cases hclock h hout with ⟨failure, hanswer, hending, -⟩ |
      ⟨o, report, -, hanswer, hending, -⟩ <;>
    · rw [hanswer, hending]
      rfl

theorem tells_of_failure {failure : Failure} (hanswer : answer w disk query i = .error failure)
    (hending : (w.check disk i query).1.ending = endingOf (.error failure))
    (hresults : (w.check disk i query).1.results = []) : Tells w disk query i where
  fault_iff := by
    rw [hending, code_endingOf_error, hanswer]
    cases hhandled : failure.isHandled <;> simp [hhandled]
  code report hreport := by cases hanswer.symm.trans hreport
  interrupted failure' hfailure' hhandled := by
    obtain rfl := Except.error.inj (hanswer.symm.trans hfailure')
    simp [hending, endingOf, hhandled]
  silent _ := hresults
  written o report _ hreport := by cases hanswer.symm.trans hreport
  quiet_iff hclean := by
    rw [hending, code_endingOf_error] at hclean
    split at hclean <;> cases hclean

theorem tells_of_report {o : RunOptions} {report : Report} (hmerged : merged w disk i = .ok o)
    (hanswer : answer w disk query i = .ok report)
    (hending : (w.check disk i query).1.ending = endingOf (.ok report.errors))
    (hresults : (w.check disk i query).1.results = shownText o report) : Tells w disk query i where
  fault_iff := by
    rw [hending, code_endingOf_ok, hanswer]
    split <;> simp
  code report' hreport' := by
    obtain rfl := Except.ok.inj (hanswer.symm.trans hreport')
    rw [hending, code_endingOf_ok]
  interrupted failure hfailure := by cases hanswer.symm.trans hfailure
  silent hfault := by
    rw [hending, code_endingOf_ok] at hfault
    split at hfault <;> cases hfault
  written o' report' ho' hreport' := by
    obtain rfl := Except.ok.inj (hmerged.symm.trans ho')
    obtain rfl := Except.ok.inj (hanswer.symm.trans hreport')
    exact hresults
  quiet_iff hclean := by
    have hempty : report.errors.isEmpty = true := by
      rw [hending, code_endingOf_ok] at hclean
      by_contra hne
      simp [hne] at hclean
    have hshows : o.shows report = !o.quiet := by simp [RunOptions.shows, hempty]
    rw [hresults, shownText, hshows, hmerged]
    cases hquiet : o.quiet with
    | true => simp [hquiet]
    | false => simp [hquiet, shownLines_ne_nil]

theorem tells_of_figured (hclock : Timed w.tools) (h : Figured w disk query i)
    (hout : Accepted w disk query i) : Tells w disk query i := by
  rcases run_cases hclock h hout with ⟨failure, hanswer, hending, hresults⟩ |
    ⟨o, report, hmerged, hanswer, hending, hresults⟩
  · exact tells_of_failure hanswer hending hresults
  · exact tells_of_report hmerged hanswer hending hresults

end Runs

/-- A compiler that looks at one file and builds it in one way. -/
def oneFile (outcome : BuildOutcome) : Tools Unit where
  discover _ _ _ w := (.ok [{ path := some ['/', 'a'], module := ['a'] }], w)
  build _ w := (outcome, w)
  tick w := (.real 0, w)
  versionControl _ _ w := (.missing, w)

/-- A place with a stream for results that takes no text with some character in it. -/
def place (outcome : BuildOutcome) (refused : List Char) : Workplace Unit where
  parsed := {}
  tools := oneFile outcome
  world := ()
  environment :=
    { version := [], interpreter := [], platform := []
      refusal? := fun _ t =>
        if t.any (refused.contains ·) then some (.crash "character maps to <undefined>") else none }
  time := []

/-- A project at the root of the disk that says nothing about the compiler. -/
def plain : Disk := ⟨[("mypy.ini".toList, .file ⟨#[]⟩ 0)]⟩

def checkAll (flags : Flags) : Invocation where
  verbose := false
  command := .check .all
  project := ['/']
  flags := flags

/-- A message about the first place in the file. -/
def atOnce : Text :=
  ['/', 'a', ':', '1', ':', '1', ':', ' ', 'e', 'r', 'r', 'o', 'r', ':', ' ', 'x']

def faulty : BuildOutcome := .finished [atOnce] [['/', 'a']]

/-- Figures as a document, and no word about a clean project. -/
def figures : Flags := { output := some .json, quiet := true, metrics := true }

end Recheck.Proofs.CheckRuns
