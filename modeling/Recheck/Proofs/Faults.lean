import Recheck.Proofs.DiskPrograms

/-!
Which faults the parts of a session end with. Reading messages, building programs and making
records end with faults of the configuration at most; a file that does not exist is a fault of the
check of one file alone, and a file that the program does not hold is one of asking the program
about it.
-/

namespace Recheck.Proofs.Faults

open Recheck.Proofs.Activities
open Recheck.Proofs.DiskPrograms
open Recheck.Proofs.Programs
open Recheck.Proofs.Queries

variable {σ α β : Type} {kind : FaultKind} {directory : Text}

/-- The answer is a fault of the kind. -/
def Raises (kind : FaultKind) (answer : Except Failure α) : Prop :=
  ∃ cause, answer = .error (.fault cause) ∧ cause.kind = kind

theorem raises_error {failure : Failure} : Raises kind (.error failure : Except Failure α) ↔
    ∃ cause, failure = .fault cause ∧ cause.kind = kind := by
  simp [Raises]

theorem Raises.of_error {failure : Failure} (h : Raises kind (.error failure : Except Failure α)) :
    Raises kind (.error failure : Except Failure β) :=
  raises_error.mpr (raises_error.mp h)

theorem not_raises_ok (a : α) : ¬ Raises kind (.ok a : Except Failure α) := by
  rintro ⟨cause, h, -⟩
  cases h

/-- No build ends with a fault of the kind. -/
def BuildsSpare (kind : FaultKind) (tools : Tools σ) : Prop :=
  ∀ sources w cause, (tools.build sources w).1 = .failed (.fault cause) → cause.kind ≠ kind

theorem not_raises_bind {x : Except Failure α} {f : α → Except Failure β} (hx : ¬ Raises kind x)
    (hf : ∀ a, ¬ Raises kind (f a)) : ¬ Raises kind (x >>= f) := by
  cases x with
  | ok a => exact hf a
  | error failure => exact fun h => hx h.of_error

theorem not_raises_map {x : Except Failure α} (hx : ¬ Raises kind x) (f : α → β) :
    ¬ Raises kind (x.map f) := not_raises_bind hx fun a => not_raises_ok (f a)

theorem not_raises_foldlM {f : β → α → Except Failure β} (hf : ∀ b a, ¬ Raises kind (f b a))
    (items : List α) (b : β) : ¬ Raises kind (items.foldlM f b) := by
  induction items generalizing b with
  | nil => exact not_raises_ok b
  | cons a items ih => exact not_raises_bind (hf b a) fun b' => ih b'

theorem not_raises_mapM {f : α → Except Failure β} (hf : ∀ a, ¬ Raises kind (f a))
    (items : List α) : ¬ Raises kind (items.mapM f) := by
  induction items with
  | nil => exact not_raises_ok []
  | cons a items ih =>
      rw [List.mapM_cons]
      exact not_raises_bind (hf a) fun b => not_raises_bind ih fun bs => not_raises_ok (b :: bs)

theorem not_raises_outcome_bind {x : Activity σ α} {f : α → Activity σ β} {s : Session σ}
    (hx : ¬ Raises kind (outcome x s).1) (hf : ∀ a s', ¬ Raises kind (outcome (f a) s').1) :
    ¬ Raises kind (outcome (x >>= f) s).1 := by
  rw [outcome_bind]
  rcases hout : outcome x s with ⟨failure | a, s'⟩
  · rw [hout] at hx
    exact fun h => hx h.of_error
  · exact hf a s'

theorem not_raises_index (number : Option Text) : ¬ Raises kind (MessageLine.index number) := by
  unfold MessageLine.index
  rintro ⟨cause, h, -⟩
  repeat' split at h
  all_goals cases h

theorem not_raises_addLine (done : List Diagnostic) (raw : Text) :
    ¬ Raises kind (Diagnostic.addLine directory done raw) := by
  unfold Diagnostic.addLine
  dsimp only
  split
  · exact not_raises_ok done
  · split
    · exact not_raises_ok _
    · next parts hparts =>
        have halone : ∀ place, ¬ Raises kind (do
            let column ← MessageLine.index parts.column
            let code := parts.code.getD Diagnostic.defaultCode
            return ({ file := some (Path.normalize directory parts.file), line := Int.ofNat place
                      column := Int.ofNat column, code, chain := [parts.message]
                      category := parts.category
                      syntactic := code == Diagnostic.syntaxCode } : Diagnostic) :: done) :=
          fun place => not_raises_bind (not_raises_index parts.column) fun column => not_raises_ok _
        refine not_raises_bind (not_raises_index parts.line) fun place => ?_
        split
        · split
          · exact not_raises_ok _
          · exact halone place
        · exact halone place

theorem not_raises_ofLines (lines paths : List Text) :
    ¬ Raises kind (Program.ofLines directory lines paths) := by
  rw [ofLines_eq]
  exact not_raises_map (not_raises_map (not_raises_foldlM not_raises_addLine lines [])
    List.reverse) _

theorem not_raises_programOf {tools : Tools σ} (hbuild : BuildsSpare kind tools) (paths : List Text)
    (sources : List Source) (w : σ) :
    ¬ Raises kind (programOf directory paths (tools.build sources w).1) := by
  cases hbuilt : (tools.build sources w).1 with
  | failed failure =>
      rintro ⟨cause, h, hkind⟩
      obtain rfl := Except.error.inj h
      exact hbuild sources w cause hbuilt hkind
  | blocked lines module => exact not_raises_ofLines lines paths
  | finished lines loaded => exact not_raises_ofLines lines _

theorem not_raises_ofDiagnostics (root : Text) (diagnostics : List Diagnostic) :
    ¬ Raises kind (Record.ofDiagnostics directory root diagnostics) := by
  refine not_raises_map (not_raises_mapM (fun d => ?_) diagnostics) _
  unfold Record.ofDiagnostic?
  split
  · exact not_raises_ok none
  · exact not_raises_ok none
  · refine not_raises_map ?_ some
    unfold Record.ofLocated
    rintro ⟨cause, h, -⟩
    repeat' split at h
    all_goals cases h

theorem fileRecords_of_not_contains (p : Project σ) {program : Program} {path : Text}
    (h : program.contains p.directory path = false) :
    p.fileRecords program path =
      .error (.fault (.notInProgram (Path.normalize p.directory path))) := by
  have hmem : ¬ program.files.contains (Path.normalize p.directory path) = true := by
    simpa [Program.contains] using h
  unfold Project.fileRecords Program.syntacticErrors Program.about
  simp only [hmem]
  rfl

theorem raises_fileRecords {p : Project σ} {program : Program} {path : Text} :
    Raises kind (p.fileRecords program path) ↔
      kind = .outOfScope ∧ program.contains p.directory path = false := by
  cases hcontains : program.contains p.directory path with
  | false =>
      rw [fileRecords_of_not_contains p hcontains, raises_error]
      constructor
      · rintro ⟨cause, h, rfl⟩
        obtain rfl := Failure.fault.inj h
        exact ⟨rfl, rfl⟩
      · rintro ⟨rfl, -⟩
        exact ⟨_, rfl, rfl⟩
  | true =>
      have hmem : program.files.contains (Path.normalize p.directory path) = true := hcontains
      refine iff_of_false ?_ (by simp)
      unfold Project.fileRecords Program.syntacticErrors Program.semanticErrors Program.about
      simp only [hmem]
      exact not_raises_ofDiagnostics p.root _

theorem not_raises_report (p : Project σ) (errors : List Record) (start : Number) (checked : Nat)
    (s : Session σ) : ¬ Raises kind (outcome (p.report errors start checked) s).1 := by
  unfold Project.report
  split
  · exact not_raises_ok _
  · rw [outcome_bind, outcome_ask]
    dsimp only
    cases start.elapsedMillis _ with
    | ok millis => exact not_raises_ok _
    | error fault =>
        rintro ⟨cause, h, -⟩
        cases h

theorem not_raises_resolve (p : Project σ) (disk : Disk) (path : Text) :
    ¬ Raises kind (p.resolve disk path) := by
  unfold Project.resolve Config.resolve
  rintro ⟨cause, h, -⟩
  repeat' split at h
  all_goals cases h

theorem contains_of_mem {program : Program} {path : Text} (h : path ∈ program.files)
    (hclean : Path.clean path = path) : program.contains directory path = true := by
  rw [Program.contains, Paths.normalize_of_clean hclean]
  exact List.contains_iff_mem.mpr h

theorem not_raises_existing (p : Project σ) (disk : Disk) (paths : List Text) :
    ¬ Raises kind (p.existing disk paths) :=
  not_raises_bind (not_raises_mapM (not_raises_resolve p disk) paths) fun _ => not_raises_ok _

theorem not_raises_collected (p : Project σ) (program : Program) (paths : List Text) :
    ¬ Raises kind (collected p program paths) := by
  induction paths with
  | nil => exact not_raises_ok _
  | cons path paths ih =>
      unfold collected
      split
      · exact not_raises_map ih _
      · exact ih
      · next failure hother hrecords =>
          rintro ⟨cause, h, hkind⟩
          obtain rfl := Except.error.inj h
          have hraises : Raises kind (p.fileRecords program path) := ⟨cause, hrecords, hkind⟩
          obtain ⟨-, houtside⟩ := raises_fileRecords.mp hraises
          have habsent := hrecords.symm.trans (fileRecords_of_not_contains p houtside)
          exact hother _ (Except.error.inj habsent)

theorem checkFile_of_missing {p : Project σ} {disk : Disk} {file target : Text}
    (hresolve : p.resolve disk file = .ok target) (hmissing : disk.isFile target = false)
    (s : Session σ) : outcome (p.checkFile disk file) s =
      (.error (.fault (.fileNotFound target)), { s with world := (p.tools.tick s.world).2 }) := by
  have hrefreshed : refreshed p disk (.single file) = .error (.fault (.fileNotFound target)) := by
    rw [refreshed_single hresolve, if_neg (by simp [hmissing])]
  exact run_of_refreshed_error hrefreshed s

theorem outcome_checkFile {p : Project σ} {disk : Disk} {file target : Text}
    (hresolve : p.resolve disk file = .ok target) (htarget : disk.isFile target = true)
    (s : Session σ) :
    outcome (p.checkFile disk file) s =
      match outcome (p.program disk)
          (refreshAll disk [target] { s with world := (p.tools.tick s.world).2 }) with
      | (.error failure, s') => (.error failure, s')
      | (.ok b, s') =>
        match p.fileRecords b.program target with
        | .error failure => (.error failure, s')
        | .ok errors => outcome (p.report errors (p.tools.tick s.world).1 1) (s'.log .checker
            ("Checked " ++ target ++ [':', ' '] ++ Project.diagnosticCount errors)) := by
  unfold Project.checkFile
  rw [outcome_bind, outcome_ask]
  dsimp only
  rw [outcome_bind, outcome_lift, hresolve]
  dsimp only
  rw [if_neg (by simp [htarget]), outcome_bind, outcome_modify]
  dsimp only
  rcases hprogram : outcome (p.program disk)
      (refreshAll disk [target] { s with world := (p.tools.tick s.world).2 }) with ⟨failure | b, s'⟩
  · exact outcome_bind_of_error hprogram _
  · refine (outcome_bind_of_ok hprogram _).trans ?_
    rw [outcome_bind, outcome_lift]
    dsimp only
    cases p.fileRecords b.program target <;> rfl

variable (hkind : kind ≠ .configuration)

include hkind

theorem not_raises_rootsAt (p : Project σ) (disk : Disk) (w : σ) :
    ¬ Raises kind (rootsAt p disk w) := by
  unfold rootsAt
  rintro ⟨cause, h, rfl⟩
  split at h
  · obtain rfl := Failure.fault.inj (Except.error.inj h)
    exact hkind rfl
  · cases h

theorem not_raises_isRootFile (p : Project σ) (disk : Disk) (path : Text) (s : Session σ) :
    ¬ Raises kind (outcome (p.isRootFile disk path) s).1 := by
  unfold Project.isRootFile
  refine not_raises_outcome_bind ?_ fun target s₁ => not_raises_outcome_bind ?_ fun paths s₂ => ?_
  · rw [outcome_lift]
    exact not_raises_resolve p disk path
  · rw [outcome_rootFiles_fst]
    exact not_raises_rootsAt hkind p disk _
  · exact not_raises_ok _

theorem not_raises_sourcesAt (p : Project σ) (disk : Disk) (paths : List Text) (w : σ) :
    ¬ Raises kind (sourcesAt p disk paths w) := by
  unfold sourcesAt
  rintro ⟨cause, h, rfl⟩
  split at h
  · obtain rfl := Failure.fault.inj (Except.error.inj h)
    exact hkind rfl
  · cases h

theorem not_raises_of_creates {p : Project σ} (hbuild : BuildsSpare kind p.tools) {disk : Disk}
    {s s' : Session σ} {answer : Except Failure (Program × List Source)}
    (h : Creates p disk s (answer, s')) : ¬ Raises kind answer := by
  cases h with
  | @unfound w w' failure s' hkept hfound =>
      have hsearch := not_raises_bind (not_raises_rootsAt hkind p disk w) fun paths =>
        not_raises_sourcesAt hkind p disk paths w'
      rw [hfound] at hsearch
      exact fun h => hsearch h.of_error
  | built hroots hfound hget hsources hbuilt =>
      exact not_raises_map (not_raises_programOf hbuild _ _ _) _

theorem not_raises_program {p : Project σ} (hbuild : BuildsSpare kind p.tools) (disk : Disk)
    (s : Session σ) : ¬ Raises kind (outcome (p.program disk) s).1 := by
  have hyields := program_yields p disk s
  generalize outcome (p.program disk) s = result at hyields
  cases hyields with
  | rootless hkept hroots =>
      have hspared := not_raises_rootsAt hkind p disk s.world
      rw [hroots] at hspared
      exact fun h => hspared h.of_error
  | reused hroots hread hstored hversions => exact not_raises_ok _
  | failed hroots hread hstale hpruned hcreates hfailed =>
      have hspared := not_raises_of_creates hkind hbuild hcreates
      rw [hfailed] at hspared
      exact fun h => hspared h.of_error
  | built hroots hread hstale hpruned hcreates hmade hversions hnumber hstore hbuilt =>
      exact not_raises_ok _

theorem not_raises_checkPaths {p : Project σ} (hbuild : BuildsSpare kind p.tools) (disk : Disk)
    (paths : List Text) (s : Session σ) :
    ¬ Raises kind (outcome (p.checkPaths disk paths) s).1 := by
  unfold Project.checkPaths
  rw [outcome_bind, outcome_ask]
  dsimp only
  refine not_raises_outcome_bind ?_ fun files s₁ => ?_
  · rw [outcome_lift]
    exact not_raises_existing p disk paths
  · rw [outcome_bind, outcome_modify]
    dsimp only
    split
    · exact not_raises_report p _ _ _ _
    · refine not_raises_outcome_bind (not_raises_program hkind hbuild disk _) fun b s₂ => ?_
      refine not_raises_outcome_bind ?_ fun found s₃ => ?_
      · obtain ⟨s', hcollect, -⟩ := outcome_collect p b.program files s₂
        rw [hcollect]
        exact not_raises_collected p b.program files
      · rw [outcome_bind, outcome_modify]
        exact not_raises_report p _ _ _ _

theorem raises_checkFile_of_isFile {p : Project σ} (hbuild : BuildsSpare kind p.tools) {disk : Disk}
    {file target : Text} (hresolve : p.resolve disk file = .ok target)
    (htarget : disk.isFile target = true) (s : Session σ) :
    Raises kind (outcome (p.checkFile disk file) s).1 ↔ kind = .outOfScope ∧
      ∃ b, (outcome (p.program disk) (refreshAll disk [target]
          { s with world := (p.tools.tick s.world).2 })).1 = .ok b ∧
        b.program.contains p.directory target = false := by
  rw [outcome_checkFile hresolve htarget]
  set s₁ := refreshAll disk [target] { s with world := (p.tools.tick s.world).2 }
  have hspared := not_raises_program hkind hbuild disk s₁
  rcases hprogram : outcome (p.program disk) s₁ with ⟨failure | b, s'⟩
  · rw [hprogram] at hspared
    refine iff_of_false (fun h => hspared h.of_error) ?_
    rintro ⟨-, b, h, -⟩
    cases h
  · simp only [Except.ok.injEq, exists_eq_left']
    rw [← raises_fileRecords (p := p)]
    cases hrecords : p.fileRecords b.program target with
    | error failure => exact raises_error.trans raises_error.symm
    | ok errors => exact iff_of_false (not_raises_report p errors _ 1 _) (not_raises_ok errors)

/-- A check of one file ends with a fault where the file does not exist, and where the program
does not hold it. -/
theorem raises_checkFile {p : Project σ} (hbuild : BuildsSpare kind p.tools) {disk : Disk}
    {file : Text} {s : Session σ} :
    Raises kind (outcome (p.checkFile disk file) s).1 ↔ ∃ target,
      p.resolve disk file = .ok target ∧
        if disk.isFile target then
          kind = .outOfScope ∧ ∃ b, (outcome (p.program disk) (refreshAll disk [target]
              { s with world := (p.tools.tick s.world).2 })).1 = .ok b ∧
            b.program.contains p.directory target = false
        else kind = .sourceNotFound := by
  cases hresolve : p.resolve disk file with
  | error failure =>
      have hspared : ¬ Raises kind (p.resolve disk file) := not_raises_resolve p disk file
      have hrefreshed : refreshed p disk (.single file) = .error failure := by
        simp [refreshed, hresolve, bind, Except.bind]
      have hrun : outcome (p.checkFile disk file) s = (.error failure, _) :=
        run_of_refreshed_error hrefreshed s
      rw [hresolve] at hspared
      rw [hrun]
      refine iff_of_false (fun h => hspared h.of_error) (by simp)
  | ok target =>
      simp only [Except.ok.injEq, exists_eq_left']
      cases htarget : disk.isFile target with
      | true =>
          rw [raises_checkFile_of_isFile hkind hbuild hresolve htarget]
          rfl
      | false =>
          rw [checkFile_of_missing hresolve htarget, raises_error]
          constructor
          · rintro ⟨cause, h, rfl⟩
            obtain rfl := Failure.fault.inj h
            rfl
          · rintro rfl
            exact ⟨_, rfl, rfl⟩

end Recheck.Proofs.Faults
