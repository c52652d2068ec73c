import Recheck.Cli.Watch
import Recheck.Proofs.CheckRuns
import Recheck.Proofs.ReportText

/-!
The format in which a command tells of a fault. A command whose format is JSON, by its flag or by
the settings of the project, should tell of every fault by a JSON document. It does, unless the
format comes from the settings and the compiler refuses its options.
-/

namespace Recheck.Proofs.FaultFormats

open Recheck.Cli
open Recheck.Proofs.Activities
open Recheck.Proofs.CheckRuns
open Recheck.Proofs.JsonText

variable {σ : Type}

def perform (w : Workplace σ) (disk : Disk)
    (course : Bool → Project σ → Watch σ → WatchEnd × Watch σ) (i : Invocation) : Run :=
  match i.command with
  | .check query => (w.check disk i query).1
  | .watch initial => (w.watch disk i (course initial)).1

/-- The configuration of the project of an invocation, and the entry that reading it leaves. -/
def configured (w : Workplace σ) (disk : Disk) (i : Invocation) :
    Except Failure (Config × Entry) :=
  Config.load disk (Path.join w.tools.directory (Path.tidy i.project))

/-- The format of the flag, or else that of the settings of a project that has a configuration. -/
def format? (w : Workplace σ) (disk : Disk) (i : Invocation) : Option Format :=
  i.flags.output.or
    ((configured w disk i).toOption.map fun loaded => loaded.1.settings.output)

/-- The failures of commands: a project that cannot be opened, or a check without an answer. -/
inductive Fails (w : Workplace σ) (disk : Disk) (i : Invocation) : Failure → Prop
  | opening {failure : Failure} {entries : List Entry}
      (h : w.openProject disk i = (.error failure, entries)) : Fails w disk i failure
  | check {query : Query} {p : Project σ} {o : RunOptions} {entries : List Entry}
      {failure : Failure} (hcommand : i.command = .check query)
      (hopen : w.openProject disk i = (.ok (p, o), entries))
      (h : (outcome (query.run p disk) { world := w.world }).1 = .error failure) :
      Fails w disk i failure

/-- The format is left to the settings, and the options of the compiler are refused after the
settings have been read. -/
def Refused (w : Workplace σ) (disk : Disk) (i : Invocation) : Prop :=
  i.flags.output = none ∧ ∃ config entry failure,
    configured w disk i = .ok (config, entry) ∧
    CompilerOptions.load config (i.flags.noCache || config.settings.noCache) w.parsed =
      .error failure

/-- A run ends with a fault. It writes the lines of a text about it as messages, and nothing else
that does not come from the journal. -/
structure TellsFault (w : Workplace σ) (i : Invocation) (run : Run) (t : Text) : Prop where
  code : run.ending.code = 2
  writings : ∃ entries, run.writings = w.writeEntries i.verbose entries ++ [.message (t ++ ['\n'])]

def envelope (message : Text) : Json := .object [("error", .text message)]

theorem withoutColour_of_not_mem {t : Text} (h : '\x1b' ∉ t) : withoutColour t = t := by
  fun_induction withoutColour t with
  | case1 => rfl
  | case2 rest after hafter hlt ih => simp at h
  | case3 rest hnone ih => simp at h
  | case4 c rest hc ih =>
      simp only [List.mem_cons, not_or] at h
      rw [ih h.2]

theorem withoutColour_errorText_json (message : Text) :
    withoutColour (errorText message .json) = errorText message .json := by
  have htext : errorText message .json =
      ['{', '\n', ' ', ' ', '"', 'e', 'r', 'r', 'o', 'r', '"', ':', ' '] ++ Json.quote message
        ++ ['\n', '}'] := by
    have hname : Json.quote ['e', 'r', 'r', 'o', 'r'] = ['"', 'e', 'r', 'r', 'o', 'r', '"'] := by
      decide
    simp [errorText, Json.indentedText, Json.render, Json.renderFields, Json.Layout.gap,
      Json.Layout.colon, hname]
  apply withoutColour_of_not_mem
  intro hmem
  simp only [htext, List.mem_append] at hmem
  rcases hmem with (hmem | hmem) | hmem
  · simp at hmem
  · have hprintable := printable_quote message '\x1b' hmem
    exact absurd hprintable.1 (by decide)
  · simp at hmem

theorem read?_sentence (message : Text) :
    Json.read? (withoutColour (errorText message .human)) = none := by
  -- No document starts with a capital letter.
  have hsentence : withoutColour (errorText message .human) =
      ['E', 'r', 'r', 'o', 'r', ':', ' '] ++ withoutColour message := by
    simp [errorText, withoutColour]
  have hvalue : ∀ fuel, Json.readValue (fuel + 1)
      (['E', 'r', 'r', 'o', 'r', ':', ' '] ++ withoutColour message) = none := by
    intro fuel
    simp [Json.readValue, Json.skipSpace, Json.isSpace, Json.readNumber, Text.dropHead?,
      Json.readMagnitude, Json.spanDigits]
  rw [hsentence, Json.read?, hvalue]

theorem read?_document (message : Text) :
    Json.read? (errorText message .json) = some (envelope message) :=
  ReportText.read?_errorText message

section

variable (w : Workplace σ) (disk : Disk) (i : Invocation)

theorem openProject_stages :
    (∃ failure, configured w disk i = .error failure ∧
      w.openProject disk i = (.error failure, [])) ∨
    ∃ config entry, configured w disk i = .ok (config, entry) ∧
      ((∃ failure, CompilerOptions.load config (i.flags.noCache || config.settings.noCache)
          w.parsed = .error failure ∧ w.openProject disk i = (.error failure, [entry])) ∨
        ∃ loaded p entries, CompilerOptions.load config
            (i.flags.noCache || config.settings.noCache) w.parsed = .ok loaded ∧
          w.openProject disk i = (.ok (p, i.flags.over config.settings), entries)) := by
  unfold Workplace.openProject Project.openAt configured
  cases Config.load disk (Path.join w.tools.directory (Path.tidy i.project)) with
  | error failure => exact .inl ⟨failure, rfl, rfl⟩
  | ok loaded =>
      obtain ⟨config, entry⟩ := loaded
      right
      refine ⟨config, entry, rfl, ?_⟩
      have hcache : (i.flags.over config.settings).noCache =
          (i.flags.noCache || config.settings.noCache) := rfl
      simp only [Project.ofConfig, hcache]
      cases CompilerOptions.load config (i.flags.noCache || config.settings.noCache) w.parsed with
      | error failure => exact .inl ⟨failure, rfl, rfl⟩
      | ok options => exact .inr ⟨options, _, _, rfl, rfl⟩

variable {w disk i}

theorem fails_of_answer {query : Query} {failure : Failure} (hcommand : i.command = .check query)
    (h : answer w disk query i = .error failure) : Fails w disk i failure := by
  unfold answer at h
  rcases hopen : w.openProject disk i with ⟨failure' | ⟨p, o⟩, entries⟩
  · rw [hopen] at h
    obtain rfl := Except.error.inj h
    exact .opening hopen
  · rw [hopen] at h
    exact .check hcommand hopen h

theorem tellsFault_failedRun {cause : Fault} (entries : List Entry) (format : Format) :
    TellsFault w i (w.failedRun i.verbose entries format (.fault cause))
      (withoutColour (errorText cause.message format)) := by
  constructor
  · rfl
  · exact ⟨entries ++ failureEntries (.fault cause), rfl⟩

theorem tellsFault_of_unopened {cause : Fault} {entries : List Entry}
    (h : w.openProject disk i = (.error (.fault cause), entries))
    (course : Bool → Project σ → Watch σ → WatchEnd × Watch σ) :
    TellsFault w i (perform w disk course i)
      (withoutColour (errorText cause.message (i.flags.output.getD .human))) := by
  unfold perform
  cases i.command with
  | check query =>
      simp only [Workplace.check, h]
      exact tellsFault_failedRun entries _
  | watch initial =>
      simp only [Workplace.watch, h]
      constructor
      · rfl
      · exact ⟨entries, rfl⟩

theorem tellsFault_of_unanswered {query : Query} {p : Project σ} {o : RunOptions}
    {entries : List Entry} {cause : Fault} (hcommand : i.command = .check query)
    (hopen : w.openProject disk i = (.ok (p, o), entries))
    (h : (outcome (query.run p disk) { world := w.world }).1 = .error (.fault cause))
    (course : Bool → Project σ → Watch σ → WatchEnd × Watch σ) :
    TellsFault w i (perform w disk course i)
      (withoutColour (errorText cause.message o.output)) := by
  rcases hrun : outcome (query.run p disk) { world := w.world } with ⟨answer, s⟩
  obtain rfl : answer = .error (.fault cause) := by simpa [hrun] using h
  change (query.run p disk).run.run { world := w.world } = _ at hrun
  simp only [perform, hcommand, Workplace.check, hopen, hrun]
  exact tellsFault_failedRun _ _

theorem not_refused_of_opened {p : Project σ} {o : RunOptions} {entries : List Entry}
    (h : w.openProject disk i = (.ok (p, o), entries)) : ¬ Refused w disk i := by
  rintro ⟨-, config, entry, failure, hload, hrefused⟩
  rcases openProject_stages w disk i with ⟨failure', -, hopen⟩ |
    ⟨config', entry', hload', ⟨failure', -, hopen⟩ | ⟨loaded, p', entries', haccepted, -⟩⟩
  · cases hopen.symm.trans h
  · cases hopen.symm.trans h
  · obtain ⟨rfl, -⟩ := Prod.mk.inj (Except.ok.inj (hload.symm.trans hload'))
    cases hrefused.symm.trans haccepted

theorem format?_of_opened {p : Project σ} {o : RunOptions} {entries : List Entry}
    (h : w.openProject disk i = (.ok (p, o), entries)) : format? w disk i = some o.output := by
  rcases openProject_stages w disk i with ⟨failure, -, hopen⟩ |
    ⟨config, entry, hload, ⟨failure, -, hopen⟩ | ⟨loaded, p', entries', -, hopen⟩⟩
  · cases hopen.symm.trans h
  · cases hopen.symm.trans h
  · obtain ⟨-, rfl⟩ := Prod.mk.inj (Except.ok.inj (Prod.mk.inj (hopen.symm.trans h)).1)
    rw [format?, hload]
    cases hflag : i.flags.output <;> simp [Flags.over, hflag, Except.toOption]

/-- Where opening a project fails though its format is known to be JSON, either the flag says so,
or the options of the compiler were refused. -/
theorem refused_or_flag {failure : Failure} {entries : List Entry}
    (hformat : format? w disk i = some .json)
    (h : w.openProject disk i = (.error failure, entries)) :
    (i.flags.output = none ∧ Refused w disk i) ∨ i.flags.output = some .json := by
  cases hflag : i.flags.output with
  | some format => exact .inr (by simpa [format?, hflag] using hformat)
  | none =>
      left
      refine ⟨rfl, hflag, ?_⟩
      rcases openProject_stages w disk i with ⟨failure', hload, -⟩ |
        ⟨config, entry, hload, ⟨failure', hrefused, -⟩ | ⟨loaded, p, entries', -, hopen⟩⟩
      · simp [format?, hflag, hload, Except.toOption] at hformat
      · exact ⟨config, entry, failure', hload, hrefused⟩
      · cases hopen.symm.trans h

/-- A command whose format is JSON tells of a fault and ends with the code for faults. What it
tells is a document exactly if it is not so that the format was left to the settings and the
options of the compiler were refused; then it is a sentence. -/
theorem document_iff_not_refused {cause : Fault} (hformat : format? w disk i = some .json)
    (hfails : Fails w disk i (.fault cause))
    (course : Bool → Project σ → Watch σ → WatchEnd × Watch σ) :
    ∃ t, TellsFault w i (perform w disk course i) t ∧
      (Json.read? t = some (envelope cause.message) ↔ ¬ Refused w disk i) ∧
      (¬ Refused w disk i → t = errorText cause.message .json) ∧
      (Refused w disk i → t = withoutColour (errorText cause.message .human)) := by
  have hdocument (hnot : ¬ Refused w disk i)
      (htells : TellsFault w i (perform w disk course i)
        (withoutColour (errorText cause.message .json))) :
      ∃ t, TellsFault w i (perform w disk course i) t ∧
        (Json.read? t = some (envelope cause.message) ↔ ¬ Refused w disk i) ∧
        (¬ Refused w disk i → t = errorText cause.message .json) ∧
        (Refused w disk i → t = withoutColour (errorText cause.message .human)) := by
    rw [withoutColour_errorText_json] at htells
    exact ⟨_, htells, iff_of_true (read?_document _) hnot, fun _ => rfl, fun h => absurd h hnot⟩
  cases hfails with
  | check hcommand hopen h =>
      -- The options are merged by then.
      have htells := tellsFault_of_unanswered hcommand hopen h course
      rw [Option.some.inj ((format?_of_opened hopen).symm.trans hformat)] at htells
      exact hdocument (not_refused_of_opened hopen) htells
  | opening h =>
      -- Here the flag alone is asked for the format.
      have htells := tellsFault_of_unopened h course
      rcases refused_or_flag hformat h with ⟨hflag, hrefused⟩ | hflag
      · rw [hflag] at htells
        refine ⟨_, htells, iff_of_false ?_ (not_not.mpr hrefused), fun hnot => absurd hrefused hnot,
          fun _ => rfl⟩
        rw [Option.getD_none, read?_sentence]
        exact nofun
      · have hnot : ¬ Refused w disk i := fun hrefused => nomatch hflag.symm.trans hrefused.1
        rw [hflag] at htells
        exact hdocument hnot htells

end

def documented : Disk := ⟨[("mypy.ini".toList, .file ⟨#[]⟩ 0),
  ("pyproject.toml".toList,
    .file ⟨("tool.fastcheck.output=\"json\"".toList.map fun c => c.toNat.toUInt8).toArray⟩ 0)]⟩

def checkNothing : Invocation := { checkAll {} with command := .check (.file ['x']) }

def accepting : Workplace Unit := place (.finished [] []) []

def refusing : Workplace Unit := { accepting with parsed := { exitStatus := some ['2'] } }

theorem document_iff_not_refused_missing :
    format? accepting documented checkNothing = some .json ∧
    Fails accepting documented checkNothing (.fault (.fileNotFound ['/', 'x'])) ∧
    ∃ t, TellsFault accepting checkNothing
        (perform accepting documented (fun _ _ w => (.interrupted, w)) checkNothing) t ∧
      Json.read? t = some (envelope "File not found: /x") := by
  have hformat : format? accepting documented checkNothing = some .json := by decide +kernel
  have hfails : Fails accepting documented checkNothing (.fault (.fileNotFound ['/', 'x'])) :=
    fails_of_answer rfl (by decide +kernel)
  have haccepted : ¬ Refused accepting documented checkNothing := by
    rintro ⟨-, config, entry, failure, -, hrefused⟩
    cases hrefused
  obtain ⟨t, htells, hiff, -, -⟩ :=
    document_iff_not_refused hformat hfails fun _ _ w => (.interrupted, w)
  exact ⟨hformat, hfails, t, htells, hiff.mpr haccepted⟩

/-- The settings ask for documents and have been read, and yet a sentence is written. -/
theorem not_document_refused :
    format? refusing documented (checkAll {}) = some .json ∧
    Fails refusing documented (checkAll {})
      (.fault (.optionsRejected "exit status 2" "/mypy.ini")) ∧
    (perform refusing documented (fun _ _ w => (.interrupted, w)) (checkAll {})).messages =
      "Error: mypy rejected the configuration (exit status 2): /mypy.ini\n" := by
  refine ⟨by decide +kernel, ?_, by decide +kernel⟩
  exact fails_of_answer rfl (by decide +kernel)

end Recheck.Proofs.FaultFormats
