import Recheck.Proofs.Programs

/-!
Queries in three parts: the files that are read again, the program that is asked for, and what
the program says about the request.
-/

namespace Recheck.Proofs.Queries

open Recheck.Proofs.Activities
open Recheck.Proofs.Programs
open Recheck.Proofs.Snapshots

variable {σ : Type}

/-- The files that a request reads again, or why there is no answer. -/
def refreshed (p : Project σ) (disk : Disk) : Request → Except Failure (List Text)
  | .single path => do
    let path ← p.resolve disk path
    if disk.isFile path then .ok [path] else .error (.fault (.fileNotFound path))
  | .changed paths => p.existing disk paths
  | .whole => .ok []

/-- Whether a request with some files to read again asks for the program. -/
def needsProgram : Request → List Text → Bool
  | .changed _, [] => false
  | _, _ => true

def refreshAll (disk : Disk) (paths : List Text) (s : Session σ) : Session σ :=
  paths.foldl (fun s path => s.refresh disk path false) s

/-- The session in which a request asks for the program, if it does. -/
def asked (p : Project σ) (disk : Disk) (request : Request) (s : Session σ) :
    Option (Session σ) :=
  match refreshed p disk request with
  | .error _ => none
  | .ok paths =>
    if needsProgram request paths then
      some (refreshAll disk paths { s with world := (p.tools.tick s.world).2 })
    else none

/-- The records of some files of a program, and the number of those that it holds. -/
def collected (p : Project σ) (program : Program) :
    List Text → Except Failure (List Record × Nat)
  | [] => .ok ([], 0)
  | path :: paths =>
    match p.fileRecords program path with
    | .ok errors =>
      (collected p program paths).map fun (rest, count) => (errors ++ rest, count + 1)
    | .error (.fault (.notInProgram _)) => collected p program paths
    | .error failure => .error failure

/-- The records that answer a request, and the number of checked files. -/
def verdict (p : Project σ) (disk : Disk) (request : Request) (program : Program) :
    Except Failure (List Record × Nat) := do
  match request, ← refreshed p disk request with
  | .whole, _ =>
    let errors ← Record.ofDiagnostics p.directory p.root program.diagnostics
    return (errors, (program.files.filter (Program.isOwnSource p.root)).length)
  | .single _, path :: _ => return (← p.fileRecords program path, 1)
  | _, paths => collected p program paths

theorem refreshed_single {p : Project σ} {disk : Disk} {path file : Text}
    (h : p.resolve disk path = .ok file) :
    refreshed p disk (.single path) =
      if disk.isFile file then .ok [file] else .error (.fault (.fileNotFound file)) := by
  simp [refreshed, h, bind, Except.bind]

theorem asked_of_refreshed {p : Project σ} {disk : Disk} {request : Request} {paths : List Text}
    (h : refreshed p disk request = .ok paths) (s : Session σ) :
    asked p disk request s =
      if needsProgram request paths then
        some (refreshAll disk paths { s with world := (p.tools.tick s.world).2 })
      else none := by
  rw [asked, h]

theorem asked_of_error {p : Project σ} {disk : Disk} {request : Request} {failure : Failure}
    (h : refreshed p disk request = .error failure) (s : Session σ) :
    asked p disk request s = none := by
  rw [asked, h]

theorem asked_eq {p : Project σ} {disk : Disk} {request : Request} {s s₁ : Session σ}
    (h : asked p disk request s = some s₁) : ∃ paths, refreshed p disk request = .ok paths ∧
      s₁ = refreshAll disk paths { s with world := (p.tools.tick s.world).2 } := by
  cases hpaths : refreshed p disk request with
  | error failure => simp [asked_of_error hpaths] at h
  | ok paths =>
      simp only [asked_of_refreshed hpaths, Option.ite_none_right_eq_some, Option.some.injEq] at h
      exact ⟨paths, rfl, h.2.symm⟩

theorem verdict_of_error {p : Project σ} {disk : Disk} {request : Request} {failure : Failure}
    (h : refreshed p disk request = .error failure) (program : Program) :
    verdict p disk request program = .error failure := by
  simp [verdict, h, bind, Except.bind]

theorem verdict_single {p : Project σ} {disk : Disk} {path file : Text}
    (h : refreshed p disk (.single path) = .ok [file]) (program : Program) :
    verdict p disk (.single path) program =
      (p.fileRecords program file).map fun errors => (errors, 1) := by
  unfold verdict
  rw [h]
  cases hrecords : p.fileRecords program file <;>
    simp [hrecords, bind, Except.bind, Except.map, pure,
    Except.pure]

theorem verdict_changed {p : Project σ} {disk : Disk} {paths files : List Text}
    (h : p.existing disk paths = .ok files) (program : Program) :
    verdict p disk (.changed paths) program = collected p program files := by
  simp [verdict, refreshed, h, bind, Except.bind]

theorem get?_refreshAll_of_not_mem {path : Text} {paths : List Text} (h : path ∉ paths)
    (disk : Disk) (s : Session σ) :
    (refreshAll disk paths s).store.get? path = s.store.get? path := by
  induction paths generalizing s with
  | nil => rfl
  | cons q paths ih =>
      simp only [List.mem_cons, not_or] at h
      exact (ih h.2 _).trans (get?_refresh_of_ne h.1 disk false s)

theorem known_refreshAll {disk : Disk} {path content : Text}
    (htext : disk.text? path = some content)
    {paths : List Text} (hpath : path ∈ paths) (s : Session σ) :
    known (refreshAll disk paths s).store path = some content := by
  induction paths generalizing s with
  | nil => cases hpath
  | cons q paths ih =>
      change known (refreshAll disk paths (s.refresh disk q false)).store path = some content
      by_cases hmem : path ∈ paths
      · exact ih hmem _
      · obtain rfl : path = q := (List.mem_cons.mp hpath).resolve_right hmem
        rw [known, get?_refreshAll_of_not_mem hmem]
        exact known_refresh htext false s

/-- What an answer says besides the time it took: its records, and the number of checked files
where figures are wanted. -/
def said (answer : Except Failure Report) : Except Failure (List Record × Option Int) :=
  answer.map fun report => (report.errors, report.metrics.map (·.filesChecked))

/-- What a report with some records and a number of checked files says. -/
def saying (p : Project σ) (verdict : List Record × Nat) : List Record × Option Int :=
  (verdict.1, if p.collectMetrics then some (verdict.2 : Int) else none)

/-- The clock never goes wrong: between any two readings lies a number of milliseconds. -/
def Clocked (tools : Tools σ) : Prop :=
  ∀ w w', ∃ millis, (tools.tick w).1.elapsedMillis (tools.tick w').1 = .ok millis

/-- Whatever the activity comes to, the snapshots and the program stay. -/
def Keeps {α : Type} (x : Activity σ α) : Prop := ∀ s, Kept s (outcome x s).2

theorem Keeps.bind {α β : Type} {x : Activity σ α} {f : α → Activity σ β} (hx : Keeps x)
    (hf : ∀ a, Keeps (f a)) : Keeps (x >>= f) :=
  outcome_bind_related Kept Kept.trans hx hf

theorem keeps_pure {α : Type} (a : α) : Keeps (pure a : Activity σ α) := fun _ => ⟨rfl, rfl⟩

theorem keeps_throw {α : Type} (failure : Failure) : Keeps (throw failure : Activity σ α) :=
  fun _ => ⟨rfl, rfl⟩

theorem keeps_lift {α : Type} (x : Except Failure α) : Keeps (liftM x : Activity σ α) := by
  intro s
  rw [outcome_lift]
  exact ⟨rfl, rfl⟩

theorem keeps_log (part : Part) (message : Text) :
    Keeps (modify (·.log part message) : Activity σ PUnit) := fun _ => ⟨rfl, rfl⟩

theorem keeps_report (p : Project σ) (errors : List Record) (start : Number) (checked : Nat) :
    Keeps (p.report errors start checked) := by
  unfold Project.report
  split
  · exact keeps_pure _
  · refine Keeps.bind (fun _ => ⟨rfl, rfl⟩) fun reading => ?_
    cases start.elapsedMillis reading with
    | ok millis => exact keeps_pure _
    | error fault => exact keeps_throw _

/-- The messages that the observer of a session got, the latest first. -/
def statuses (s : Session σ) : List Text :=
  s.notes.filterMap fun
    | .status message => some message
    | .entry _ => none

theorem statuses_refresh (disk : Disk) (path : Text) (force : Bool) (s : Session σ) :
    statuses (s.refresh disk path force) = statuses s := by
  unfold Session.refresh
  split <;> rfl

/-- Whatever the activity comes to, it has no message for the observer. -/
def Quiet {α : Type} (x : Activity σ α) : Prop := ∀ s, statuses (outcome x s).2 = statuses s

theorem Quiet.bind {α β : Type} {x : Activity σ α} {f : α → Activity σ β} (hx : Quiet x)
    (hf : ∀ a, Quiet (f a)) : Quiet (x >>= f) :=
  outcome_bind_related (fun s s' => statuses s' = statuses s) (fun h h' => h'.trans h) hx hf

theorem quiet_lift {α : Type} (x : Except Failure α) : Quiet (liftM x : Activity σ α) := by
  intro s
  rw [outcome_lift]

theorem quiet_log (part : Part) (message : Text) :
    Quiet (modify (·.log part message) : Activity σ PUnit) := fun _ => rfl

theorem quiet_report (p : Project σ) (errors : List Record) (start : Number) (checked : Nat) :
    Quiet (p.report errors start checked) := by
  unfold Project.report
  split
  · exact fun _ => rfl
  · refine Quiet.bind (fun _ => rfl) fun reading => ?_
    cases start.elapsedMillis reading <;> exact fun _ => rfl

theorem quiet_collect (p : Project σ) (program : Program) (paths : List Text) :
    Quiet (p.collect program paths) := by
  induction paths with
  | nil => exact fun _ => rfl
  | cons path paths ih =>
      unfold Project.collect
      cases p.fileRecords program path with
      | ok errors => exact ih.bind fun _ _ => rfl
      | error failure =>
          cases failure with
          | fault cause =>
              cases cause with
              | notInProgram absent => exact (quiet_log _ _).bind fun _ => ih
              | _ => exact fun _ => rfl
          | _ => exact fun _ => rfl

theorem said_report {p : Project σ} (hclock : Clocked p.tools) (errors : List Record) (w : σ)
    (checked : Nat) (s : Session σ) :
    said (outcome (p.report errors (p.tools.tick w).1 checked) s).1 =
      .ok (saying p (errors, checked)) := by
  unfold Project.report
  cases hmetrics : p.collectMetrics with
  | false => simp [said, saying, hmetrics, Except.map]
  | true =>
      obtain ⟨millis, hmillis⟩ := hclock w s.world
      simp [outcome_bind, hmillis, said, saying, hmetrics, Except.map]

theorem outcome_report (p : Project σ) (errors : List Record) (start : Number) (checked : Nat)
    (s : Session σ) : (outcome (p.report errors start checked) s).1 =
      if p.collectMetrics then
        match start.elapsedMillis (p.tools.tick s.world).1 with
        | .ok millis => .ok { errors, metrics := some ⟨millis, checked, errors.length⟩ }
        | .error fault => .error (.arithmetic fault)
      else .ok { errors } := by
  unfold Project.report
  cases p.collectMetrics with
  | false => rfl
  | true =>
      rw [if_neg (by decide), if_pos rfl, outcome_bind, outcome_ask]
      dsimp only
      cases start.elapsedMillis (p.tools.tick s.world).1 <;> rfl

theorem errors_of_report {p : Project σ} {errors : List Record} {start : Number} {checked : Nat}
    {s : Session σ} {report : Report}
    (h : (outcome (p.report errors start checked) s).1 = .ok report) : report.errors = errors := by
  rw [outcome_report] at h
  split at h
  · split at h
    · obtain rfl := Except.ok.inj h
      rfl
    · cases h
  · obtain rfl := Except.ok.inj h
    rfl

theorem outcome_collect (p : Project σ) (program : Program) (paths : List Text)
    (s : Session σ) : ∃ s', outcome (p.collect program paths) s =
      (collected p program paths, s') ∧ Kept s s' := by
  induction paths generalizing s with
  | nil => exact ⟨s, rfl, rfl, rfl⟩
  | cons path paths ih =>
      unfold Project.collect collected
      cases hrecords : p.fileRecords program path with
      | ok errors =>
          obtain ⟨s', hout, hkept⟩ := ih s
          refine ⟨s', ?_, hkept⟩
          rw [outcome_bind, hout]
          cases collected p program paths <;> rfl
      | error failure =>
          cases failure with
          | fault cause =>
              cases cause with
              | notInProgram absent =>
                  obtain ⟨s', hout, hkept⟩ := ih (s.log .checker
                    ("Skipping " ++ path ++ " (not part of the program)".toList))
                  exact ⟨s', hout, hkept⟩
              | _ => exact ⟨s, rfl, rfl, rfl⟩
          | _ => exact ⟨s, rfl, rfl, rfl⟩

/-- What is left of a query once it has its program: what it found is noted and reported. -/
def conclude (p : Project σ) (start : Number) (message : List Record → Nat → Text)
    (finding : Activity σ (List Record × Nat)) : Activity σ Report := do
  let (errors, checked) ← finding
  modify (·.log .checker (message errors checked))
  p.report errors start checked

theorem keeps_conclude {finding : Activity σ (List Record × Nat)} (h : Keeps finding)
    (p : Project σ) (start : Number) (message : List Record → Nat → Text) :
    Keeps (conclude p start message finding) :=
  h.bind fun _ => (keeps_log _ _).bind fun _ => keeps_report p _ _ _

theorem quiet_conclude {finding : Activity σ (List Record × Nat)} (h : Quiet finding)
    (p : Project σ) (start : Number) (message : List Record → Nat → Text) :
    Quiet (conclude p start message finding) :=
  h.bind fun _ => (quiet_log _ _).bind fun _ => quiet_report p _ _ _

theorem said_conclude {p : Project σ} (hclock : Clocked p.tools) (w : σ)
    (message : List Record → Nat → Text) {finding : Activity σ (List Record × Nat)}
    {s s' : Session σ} {found : Except Failure (List Record × Nat)}
    (h : outcome finding s = (found, s')) :
    said (outcome (conclude p (p.tools.tick w).1 message finding) s).1 =
      found.map (saying p) := by
  unfold conclude
  rw [outcome_bind, h]
  cases found with
  | error failure => rfl
  | ok found =>
      simp only [outcome_bind, outcome_modify]
      exact said_report hclock found.1 w found.2 _

theorem found_of_conclude {p : Project σ} {start : Number} {message : List Record → Nat → Text}
    {finding : Activity σ (List Record × Nat)} {s s' : Session σ}
    {found : Except Failure (List Record × Nat)} (h : outcome finding s = (found, s'))
    {report : Report} (hreport : (outcome (conclude p start message finding) s).1 = .ok report) :
    ∃ checked, found = .ok (report.errors, checked) := by
  unfold conclude at hreport
  rw [outcome_bind, h] at hreport
  cases found with
  | error failure => cases hreport
  | ok found =>
      simp only [outcome_bind, outcome_modify] at hreport
      exact ⟨found.2, by rw [errors_of_report hreport]⟩

/-- The rest of a query that has its program: it keeps the session, has no message for the
observer, and what it says is about the program alone. -/
structure Answers (p : Project σ) (disk : Disk) (request : Request)
    (rest : Build → Activity σ Report) : Prop where
  keeps (b : Build) : Keeps (rest b)
  said_eq (hclock : Clocked p.tools) (b : Build) (s : Session σ) :
    said (outcome (rest b) s).1 = (verdict p disk request b.program).map (saying p)
  errors_of_ok (b : Build) (s : Session σ) {report : Report}
    (h : (outcome (rest b) s).1 = .ok report) :
    ∃ checked, verdict p disk request b.program = .ok (report.errors, checked)
  quiet (b : Build) : Quiet (rest b)

theorem answers_conclude {p : Project σ} {disk : Disk} {request : Request}
    (finding : Build → Activity σ (List Record × Nat))
    (h : ∀ b s, ∃ s', outcome (finding b) s = (verdict p disk request b.program, s') ∧ Kept s s')
    (hquiet : ∀ b, Quiet (finding b)) (w : σ) (message : List Record → Nat → Text) :
    Answers p disk request fun b => conclude p (p.tools.tick w).1 message (finding b) where
  keeps b := by
    refine keeps_conclude (fun s => ?_) p _ _
    obtain ⟨s', hout, hkept⟩ := h b s
    rwa [hout]
  said_eq hclock b s := by
    obtain ⟨s', hout, -⟩ := h b s
    exact said_conclude hclock w message hout
  errors_of_ok b s _ hreport := by
    obtain ⟨s', hout, -⟩ := h b s
    exact found_of_conclude hout hreport
  quiet b := quiet_conclude (hquiet b) p _ _

theorem run_single {p : Project σ} {disk : Disk} {path file : Text}
    (hresolve : p.resolve disk path = .ok file) (hfile : disk.isFile file = true) (s : Session σ) :
    ∃ rest, outcome (p.run disk (.single path)) s = outcome (p.program disk >>= rest)
        (refreshAll disk [file] { s with world := (p.tools.tick s.world).2 }) ∧
      Answers p disk (.single path) rest := by
  have hrefreshed : refreshed p disk (.single path) = .ok [file] := by
    rw [refreshed_single hresolve, if_pos hfile]
  refine ⟨_, ?_, answers_conclude (fun b => liftM (verdict p disk (.single path) b.program))
    (fun b s' => ⟨s', outcome_lift _ _, rfl, rfl⟩) (fun b => quiet_lift _) s.world
    fun errors _ => "Checked " ++ file ++ [':', ' '] ++ Project.diagnosticCount errors⟩
  unfold Project.run Project.checkFile
  rw [outcome_bind, outcome_ask]
  dsimp only
  rw [outcome_bind, outcome_lift, hresolve]
  dsimp only
  rw [if_neg (by simp [hfile]), outcome_bind, outcome_modify]
  refine outcome_bind_congr (fun b s' => ?_) _ _
  simp only [conclude, verdict_single hrefreshed, outcome_bind, outcome_lift]
  cases p.fileRecords b.program file <;> rfl

theorem run_changed {p : Project σ} {disk : Disk} {paths files : List Text}
    (hexisting : p.existing disk paths = .ok files) (hfiles : files ≠ []) (s : Session σ) :
    ∃ rest, outcome (p.run disk (.changed paths)) s = outcome (p.program disk >>= rest)
        (refreshAll disk files { s with world := (p.tools.tick s.world).2 }) ∧
      Answers p disk (.changed paths) rest := by
  refine ⟨_, ?_, answers_conclude (fun b => p.collect b.program files)
    (fun b s' => by rw [verdict_changed hexisting]; exact outcome_collect p b.program files s')
    (fun b => quiet_collect p b.program files) s.world fun errors checked =>
      "Checked " ++ Text.ofNat checked ++
      " changed file(s): ".toList ++ Project.diagnosticCount errors⟩
  unfold Project.run Project.checkPaths
  rw [outcome_bind, outcome_ask]
  dsimp only
  rw [outcome_bind, outcome_lift, hexisting]
  dsimp only
  rw [outcome_bind, outcome_modify, if_neg (by simpa using hfiles)]
  rfl

theorem run_whole (p : Project σ) (disk : Disk) (s : Session σ) :
    ∃ rest, outcome (p.run disk .whole) s = outcome (p.program disk >>= rest)
        { s with world := (p.tools.tick s.world).2 } ∧
      Answers p disk .whole rest := by
  refine ⟨_, ?_, answers_conclude (fun b => liftM (verdict p disk .whole b.program))
    (fun b s' => ⟨s', outcome_lift _ _, rfl, rfl⟩) (fun b => quiet_lift _) s.world
    fun errors checked => "Checked project: " ++ Text.ofNat checked ++ " file(s), ".toList ++
      Project.diagnosticCount errors⟩
  unfold Project.run Project.checkAll
  rw [outcome_bind, outcome_ask]
  refine outcome_bind_congr (fun b s' => ?_) _ _
  simp only [conclude, verdict, refreshed, outcome_bind, outcome_lift]
  cases Record.ofDiagnostics p.directory p.root b.program.diagnostics <;> rfl

theorem run_of_asked {p : Project σ} {disk : Disk} {request : Request} {s s₁ : Session σ}
    (h : asked p disk request s = some s₁) :
    ∃ rest, outcome (p.run disk request) s = outcome (p.program disk >>= rest) s₁ ∧
      Answers p disk request rest := by
  cases hrefreshed : refreshed p disk request with
  | error failure => simp [asked_of_error hrefreshed] at h
  | ok files =>
      rw [asked_of_refreshed hrefreshed] at h
      cases request with
      | single path =>
          obtain rfl := Option.some.inj h
          cases hresolve : p.resolve disk path with
          | error failure => simp [refreshed, hresolve, bind, Except.bind] at hrefreshed
          | ok file =>
              rw [refreshed_single hresolve] at hrefreshed
              split at hrefreshed
              · next hfile =>
                  obtain rfl := Except.ok.inj hrefreshed
                  exact run_single hresolve hfile s
              · cases hrefreshed
      | changed paths =>
          cases files with
          | nil => simp [needsProgram] at h
          | cons file files =>
              obtain rfl := Option.some.inj h
              exact run_changed hrefreshed (List.cons_ne_nil file files) s
      | whole =>
          obtain rfl := Except.ok.inj hrefreshed
          obtain rfl := Option.some.inj h
          exact run_whole p disk s

theorem run_of_refreshed_error {p : Project σ} {disk : Disk} {request : Request}
    {failure : Failure} (h : refreshed p disk request = .error failure) (s : Session σ) :
    outcome (p.run disk request) s =
      (.error failure, { s with world := (p.tools.tick s.world).2 }) := by
  cases request with
  | single path =>
      unfold Project.run Project.checkFile
      rw [outcome_bind, outcome_ask]
      dsimp only
      cases hresolve : p.resolve disk path with
      | error failure' =>
          obtain rfl : failure' = failure := by
            simpa [refreshed, hresolve, bind, Except.bind] using h
          rw [outcome_bind, outcome_lift]
      | ok file =>
          rw [refreshed_single hresolve] at h
          split at h
          · cases h
          · next hfile =>
              obtain rfl := Except.error.inj h
              rw [outcome_bind, outcome_lift]
              dsimp only
              rw [if_pos (by simp [hfile]), outcome_bind_of_error (outcome_throw _ _)]
  | changed paths =>
      have hexisting : p.existing disk paths = .error failure := h
      unfold Project.run Project.checkPaths
      rw [outcome_bind, outcome_ask]
      dsimp only
      rw [outcome_bind, outcome_lift, hexisting]
  | whole => cases h

theorem run_changed_none {p : Project σ} {disk : Disk} {paths : List Text}
    (h : p.existing disk paths = .ok []) (s : Session σ) :
    outcome (p.run disk (.changed paths)) s = outcome (p.report [] (p.tools.tick s.world).1 0)
      { s with world := (p.tools.tick s.world).2 } := by
  unfold Project.run Project.checkPaths
  rw [outcome_bind, outcome_ask]
  dsimp only
  rw [outcome_bind, outcome_lift, h]
  dsimp only
  rw [outcome_bind, outcome_modify, if_pos (by simp)]
  rfl

theorem run_of_not_asked {p : Project σ} {disk : Disk} {request : Request} {s : Session σ}
    (h : asked p disk request s = none) :
    Kept s (outcome (p.run disk request) s).2 ∧
      (Clocked p.tools → ∀ program, said (outcome (p.run disk request) s).1 =
        (verdict p disk request program).map (saying p)) := by
  cases hrefreshed : refreshed p disk request with
  | error failure =>
      rw [run_of_refreshed_error hrefreshed]
      refine ⟨⟨rfl, rfl⟩, fun _ program => ?_⟩
      rw [verdict_of_error hrefreshed]
      rfl
  | ok files =>
      rw [asked_of_refreshed hrefreshed] at h
      cases request with
      | changed paths =>
          have hexisting : p.existing disk paths = .ok files := hrefreshed
          cases files with
          | nil =>
              rw [run_changed_none hexisting]
              obtain ⟨hstore, hbuild⟩ := keeps_report p [] (p.tools.tick s.world).1 0
                { s with world := (p.tools.tick s.world).2 }
              refine ⟨⟨hstore, hbuild⟩, fun hclock program => ?_⟩
              rw [verdict_changed hexisting]
              exact said_report hclock [] s.world 0 _
          | cons file files => cases h
      | single | whole => cases h

theorem errors_of_not_asked {p : Project σ} {disk : Disk} {request : Request} {s : Session σ}
    (hasked : asked p disk request s = none) {report : Report}
    (h : (outcome (p.run disk request) s).1 = .ok report) :
    (∃ paths, request = .changed paths ∧ p.existing disk paths = .ok []) ∧ report.errors = [] := by
  cases hrefreshed : refreshed p disk request with
  | error failure =>
      rw [run_of_refreshed_error hrefreshed] at h
      cases h
  | ok files =>
      rw [asked_of_refreshed hrefreshed] at hasked
      cases request with
      | changed paths =>
          have hexisting : p.existing disk paths = .ok files := hrefreshed
          cases files with
          | nil =>
              rw [run_changed_none hexisting] at h
              exact ⟨⟨paths, rfl, hexisting⟩, errors_of_report h⟩
          | cons file files => cases hasked
      | single | whole => cases hasked

theorem program_of_run {p : Project σ} {disk : Disk} {request : Request} {s : Session σ}
    {report : Report} (h : (outcome (p.run disk request) s).1 = .ok report) :
    (∃ s₁ b s₂ checked, asked p disk request s = some s₁ ∧
      outcome (p.program disk) s₁ = (.ok b, s₂) ∧
      verdict p disk request b.program = .ok (report.errors, checked)) ∨
    (∃ paths, request = .changed paths ∧ p.existing disk paths = .ok []) ∧ report.errors = [] := by
  cases hasked : asked p disk request s with
  | none => exact .inr (errors_of_not_asked hasked h)
  | some s₁ =>
      obtain ⟨rest, hrun, hanswers⟩ := run_of_asked hasked
      rw [hrun, outcome_bind] at h
      rcases hprogram : outcome (p.program disk) s₁ with ⟨failure | b, s₂⟩
      · rw [hprogram] at h
        cases h
      · rw [hprogram] at h
        obtain ⟨checked, hverdict⟩ := hanswers.errors_of_ok b s₂ h
        exact .inl ⟨s₁, b, s₂, checked, rfl, hprogram, hverdict⟩

theorem verdict_of_run {p : Project σ} {disk : Disk} {request : Request} {s : Session σ}
    {report : Report} (h : (outcome (p.run disk request) s).1 = .ok report) :
    ∃ program checked, verdict p disk request program = .ok (report.errors, checked) := by
  rcases program_of_run h with ⟨s₁, b, s₂, checked, -, -, hverdict⟩ |
    ⟨⟨paths, rfl, hexisting⟩, hnone⟩
  · exact ⟨b.program, checked, hverdict⟩
  · refine ⟨⟨[], []⟩, 0, ?_⟩
    rw [verdict_changed hexisting, hnone]
    rfl

end Recheck.Proofs.Queries
