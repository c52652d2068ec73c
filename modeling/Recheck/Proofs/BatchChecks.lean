import Recheck.Proofs.RootChecks
import Recheck.Proofs.Views

/-!
A check of several files compared with checks of each of them. The check of several leaves a
session whose program has the versions of the moment and whose snapshots of the files are those of
the disk, and such a session answers for each file without another build.
-/

namespace Recheck.Proofs.BatchChecks

open Recheck.Proofs.Activities
open Recheck.Proofs.DiskPrograms
open Recheck.Proofs.Distinct
open Recheck.Proofs.Programs
open Recheck.Proofs.Queries
open Recheck.Proofs.RootChecks
open Recheck.Proofs.SessionRuns
open Recheck.Proofs.Snapshots
open Recheck.Proofs.Views
open Recheck.SnapshotStore

variable {σ : Type}

theorem mapM_ok_mem {α β ε : Type} {f : α → Except ε β} {items : List α} {results : List β}
    (h : items.mapM f = .ok results) :
    (∀ a ∈ items, ∃ b, f a = .ok b) ∧ ∀ b, b ∈ results ↔ ∃ a ∈ items, f a = .ok b := by
  induction items generalizing results with
  | nil =>
      obtain rfl : [] = results := Except.ok.inj h
      simp
  | cons a items ih =>
      rw [List.mapM_cons] at h
      cases hfirst : f a with
      | error e => simp [hfirst, bind, Except.bind] at h
      | ok b =>
          cases hrest : items.mapM f with
          | error e => simp [hfirst, hrest, bind, Except.bind] at h
          | ok rest =>
              obtain rfl : b :: rest = results := by
                simpa [hfirst, hrest, bind, Except.bind, pure, Except.pure] using h
              obtain ⟨hall, hmem⟩ := ih hrest
              exact ⟨by simpa [hfirst] using hall, fun b' => by simp [hfirst, hmem, eq_comm]⟩

theorem exists_mapM_ok {α β ε : Type} {f : α → Except ε β} {items : List α}
    (h : ∀ a ∈ items, ∃ b, f a = .ok b) : ∃ results, items.mapM f = .ok results := by
  induction items with
  | nil => exact ⟨[], rfl⟩
  | cons a items ih =>
      obtain ⟨b, hfirst⟩ := h a List.mem_cons_self
      obtain ⟨rest, hrest⟩ := ih fun a' ha' => h a' (List.mem_cons_of_mem a ha')
      exact ⟨b :: rest, by rw [List.mapM_cons, hfirst, hrest]; rfl⟩

theorem existing_eq_ok_iff {p : Project σ} {disk : Disk} {paths files : List Text} :
    p.existing disk paths = .ok files ↔
      ∃ resolved, paths.mapM (p.resolve disk) = .ok resolved ∧
        files = resolved.eraseDups.filter disk.isFile := by
  unfold Project.existing
  cases paths.mapM (p.resolve disk) <;> simp [bind, Except.bind, pure, Except.pure, eq_comm]

theorem mem_existing {p : Project σ} {disk : Disk} {paths files : List Text}
    (h : p.existing disk paths = .ok files) (file : Text) :
    file ∈ files ↔ (∃ q ∈ paths, p.resolve disk q = .ok file) ∧ disk.isFile file = true := by
  obtain ⟨resolved, hresolved, rfl⟩ := existing_eq_ok_iff.mp h
  rw [List.mem_filter, List.mem_eraseDups, (mapM_ok_mem hresolved).2]

theorem existing_of_mem_iff {p : Project σ} {disk : Disk} {paths paths' files : List Text}
    (h : p.existing disk paths = .ok files) (hsame : ∀ q, q ∈ paths' ↔ q ∈ paths) :
    ∃ files', p.existing disk paths' = .ok files' ∧ files'.Perm files := by
  obtain ⟨resolved, hresolved, rfl⟩ := existing_eq_ok_iff.mp h
  obtain ⟨hall, hmem⟩ := mapM_ok_mem hresolved
  obtain ⟨resolved', hresolved'⟩ := exists_mapM_ok fun q hq => hall q ((hsame q).mp hq)
  refine ⟨_, existing_eq_ok_iff.mpr ⟨resolved', hresolved', rfl⟩, ?_⟩
  refine List.Perm.filter _ ?_
  rw [List.perm_ext_iff_of_nodup (nodup_eraseDups _) (nodup_eraseDups _)]
  intro file
  simp only [List.mem_eraseDups, hmem, (mapM_ok_mem hresolved').2, hsame]

/-- What a session knows of a file once it has read the file again. -/
def reread (disk : Disk) (path : Text) (before : Option Snapshot) : Option Snapshot :=
  match disk.text? path with
  | none => before
  | some content => some ((before.map (renew content false)).getD ⟨path, 0, content⟩)

theorem renew_of_content {content : Text} {s : Snapshot} (h : s.content = content) :
    renew content false s = s := by
  simp [renew, h]

theorem reread_reread (disk : Disk) (path : Text) (before : Option Snapshot) :
    reread disk path (reread disk path before) = reread disk path before := by
  unfold reread
  cases disk.text? path with
  | none => rfl
  | some content =>
      cases before with
      | none => simp [renew_of_content]
      | some s => simp [renew_of_content (renew_content content false s)]

theorem get?_refresh (disk : Disk) (path : Text) (s : Session σ) (q : Text) :
    (s.refresh disk path false).store.get? q =
      if q = path then reread disk q (s.store.get? q) else s.store.get? q := by
  unfold Session.refresh reread
  by_cases hq : q = path
  · subst hq
    cases disk.text? q with
    | none => simp
    | some content => simp [get?_update]
  · cases disk.text? path with
    | none => simp [hq]
    | some content => simp [get?_update, hq]

theorem get?_refreshAll (disk : Disk) (paths : List Text) (s : Session σ) (q : Text) :
    (refreshAll disk paths s).store.get? q =
      if q ∈ paths then reread disk q (s.store.get? q) else s.store.get? q := by
  induction paths generalizing s with
  | nil => rfl
  | cons path paths ih =>
      have hcons : refreshAll disk (path :: paths) s =
          refreshAll disk paths (s.refresh disk path false) := rfl
      rw [hcons, ih, get?_refresh]
      by_cases hq : q = path
      · simp [hq, reread_reread]
      · simp [hq]

theorem refreshAll_world (disk : Disk) (paths : List Text) (s : Session σ) :
    (refreshAll disk paths s).world = s.world := by
  induction paths generalizing s with
  | nil => rfl
  | cons path paths ih =>
      exact (ih (s.refresh disk path false)).trans (refresh_world disk path false s)

theorem statuses_refreshAll (disk : Disk) (paths : List Text) (s : Session σ) :
    statuses (refreshAll disk paths s) = statuses s := by
  induction paths generalizing s with
  | nil => rfl
  | cons path paths ih =>
      exact (ih (s.refresh disk path false)).trans (statuses_refresh disk path false s)

theorem sameView_refreshAll (disk : Disk) {paths paths' : List Text} (h : paths'.Perm paths)
    (s : Session σ) : SameView [] (refreshAll disk paths s) (refreshAll disk paths' s) where
  store q _ := by simp only [get?_refreshAll, h.mem_iff]
  build := by rw [refreshAll_build, refreshAll_build]
  world := by rw [refreshAll_world, refreshAll_world]
  statuses := by rw [statuses_refreshAll, statuses_refreshAll]

theorem reread_eq_self {disk : Disk} {path : Text} {before : Option Snapshot}
    (h : ∀ content, disk.text? path = some content → before.map (·.content) = some content) :
    reread disk path before = before := by
  unfold reread
  cases htext : disk.text? path with
  | none => rfl
  | some content =>
      obtain ⟨snapshot, rfl, hcontent⟩ := Option.map_eq_some_iff.mp (h content htext)
      simp [renew_of_content hcontent]

/-- The snapshots of some files say what the disk says. -/
def Fresh (disk : Disk) (files : List Text) (s : Session σ) : Prop :=
  ∀ file ∈ files, ∀ content, disk.text? file = some content → known s.store file = some content

/-- The program at hand has the versions of the moment, and the snapshots of some files say what
the disk says. -/
structure Warm (p : Project σ) (disk : Disk) (files : List Text) (b : Build) (s : Session σ) :
    Prop where
  build : s.build = some b
  versions : ∃ paths, (∀ w, rootsAt p disk w = .ok paths) ∧
    Session.sameVersions (versionsAt disk paths s) b.versions = true
  fresh : Fresh disk files s

theorem fresh_refreshAll (disk : Disk) (files : List Text) (s : Session σ) :
    Fresh disk files (refreshAll disk files s) :=
  fun _ hfile _ htext => known_refreshAll htext hfile s

theorem versionsAt_congr {disk : Disk} {paths : List Text} {s s' : Session σ}
    (h : ∀ path ∈ paths, readWith disk paths s' path = readWith disk paths s path) :
    versionsAt disk paths s' = versionsAt disk paths s := by
  refine List.map_congr_left fun path hpath => ?_
  rw [h path (List.mem_eraseDups.mp hpath)]

theorem readWith_of_filled {disk : Disk} {paths : List Text} {s s' : Session σ} {path : Text}
    (read : Prop) [Decidable read] (hpath : path ∈ paths)
    (h : s'.store.get? path =
      (readWith disk paths s path).or (if read then first disk path else none)) :
    readWith disk paths s' path = readWith disk paths s path := by
  rw [readWith_of_mem hpath] at h ⊢
  rw [h, readWith_of_mem hpath]
  cases s.store.get? path with
  | some snapshot => rfl
  | none => cases first disk path <;> simp

theorem Warm.congr {p : Project σ} {disk : Disk} {files : List Text} {b : Build}
    {s s' : Session σ} (h : Warm p disk files b s)
    (hget : ∀ q, s'.store.get? q = s.store.get? q) (hbuild : s'.build = s.build) :
    Warm p disk files b s' := by
  obtain ⟨paths, hroots, hversions⟩ := h.versions
  have hsame : versionsAt disk paths s' = versionsAt disk paths s :=
    versionsAt_congr fun path _ => by rw [readWith, readWith, hget]
  refine ⟨hbuild.trans h.build, ⟨paths, hroots, hsame ▸ hversions⟩, ?_⟩
  intro file hfile content htext
  rw [known, hget]
  exact h.fresh file hfile content htext

theorem warm_of_program {p : Project σ} (hcached : p.noCache = false)
    (hsearch : FindsByDisk p.tools) {disk : Disk} {files : List Text} {s s' : Session σ} {b : Build}
    (hfresh : Fresh disk files s) (h : outcome (p.program disk) s = (.ok b, s')) :
    Warm p disk files b s' := by
  have hends := program_ends hcached disk s
  have hworld := fun w => rootsAt_of_search hsearch disk w s.world
  rw [h] at hends
  cases hends with
  | @reused paths b s' hroots hstored hversions hget hbuild =>
      have hread : ∀ path, s'.store.get? path =
          (readWith disk paths s path).or (if False then first disk path else none) := by
        simp [hget]
      refine ⟨hbuild, ⟨paths, fun w => (hworld w).trans hroots, ?_⟩, ?_⟩
      · rwa [versionsAt_congr fun path hpath => readWith_of_filled False hpath (hread path)]
      · intro file hfile content htext
        obtain ⟨snapshot, hsnapshot, rfl⟩ :=
          Option.map_eq_some_iff.mp (hfresh file hfile content htext)
        rw [known, hget, readWith_of_get? hsnapshot, Option.map_some]
  | @built paths paths' w w' w'' found b s' hroots hstale hroots' hfound hget hsources hprogram
      hversions hnumber hbuild =>
      refine ⟨hbuild, ⟨paths, fun w => (hworld w).trans hroots, ?_⟩, ?_⟩
      · have hread : ∀ path ∈ paths, readWith disk paths s' path = readWith disk paths s path := by
          intro path hpath
          refine readWith_of_filled (path ∈ Snapshots.files p.directory found) hpath ?_
          rw [hget, prunedTo_of_mem hpath]
        rw [versionsAt_congr hread, ← hversions]
        simp [Session.sameVersions]
      · intro file hfile content htext
        obtain ⟨snapshot, hsnapshot, rfl⟩ :=
          Option.map_eq_some_iff.mp (hfresh file hfile content htext)
        have hkeep : (paths.contains file || disk.exists? file) = true := by
          rw [exists?_of_isFile (isFile_of_text? htext), Bool.or_true]
        rw [known, hget, prunedTo, if_pos hkeep, readWith_of_get? hsnapshot, Option.some_or,
          Option.map_some]

/-- A session that is up to date gives out its program, without a build. -/
theorem program_of_warm {p : Project σ} (hcached : p.noCache = false) {disk : Disk}
    {files : List Text} {s : Session σ} {b : Build} (h : Warm p disk files b s) :
    (outcome (p.program disk) s).1 = .ok b := by
  obtain ⟨paths, hroots, hversions⟩ := h.versions
  have hcurrent : ∀ {paths'}, rootsAt p disk s.world = .ok paths' →
      ¬ ∀ b, s.build = some b →
        Session.sameVersions (versionsAt disk paths' s) b.versions = false := by
    intro paths' hroots' hstale
    obtain rfl := Except.ok.inj ((hroots s.world).symm.trans hroots')
    simp [hstale b h.build] at hversions
  have hends := program_ends hcached disk s
  generalize outcome (p.program disk) s = result at hends
  cases hends with
  | rootless hkept hroots' => cases (hroots s.world).symm.trans hroots'
  | reused hroots' hstored => rw [Option.some.inj (hstored.symm.trans h.build)]
  | unfound hroots' hstale => exact absurd hstale (hcurrent hroots')
  | unbuilt hroots' hstale => exact absurd hstale (hcurrent hroots')
  | built hroots' hstale => exact absurd hstale (hcurrent hroots')

/-- A request is answered by the program that was at hand before it. -/
def AtHand (p : Project σ) (disk : Disk) (request : Request) (s : Session σ) : Prop :=
  ∃ s₁ b, s.build = some b ∧ asked p disk request s = some s₁ ∧
    (outcome (p.program disk) s₁).1 = .ok b

theorem checkFile_of_warm {p : Project σ} (hcached : p.noCache = false) (hclock : Clocked p.tools)
    (hsearch : FindsByDisk p.tools) {disk : Disk} {files : List Text} {s : Session σ} {b : Build}
    (h : Warm p disk files b s) {q file : Text} (hfile : file ∈ files)
    (hresolve : p.resolve disk q = .ok file) (hexists : disk.isFile file = true) :
    AtHand p disk (.single q) s ∧
      said (outcome (p.checkFile disk q) s).1 =
        (p.fileRecords b.program file).map (fun errors => saying p (errors, 1)) ∧
      Warm p disk files b (outcome (p.checkFile disk q) s).2 := by
  have hrefreshed : refreshed p disk (.single q) = .ok [file] := by
    rw [refreshed_single hresolve, if_pos hexists]
  have hneeds : needsProgram (.single q) [file] = true := rfl
  have hasked := asked_of_refreshed hrefreshed s
  rw [if_pos hneeds] at hasked
  set s₁ := refreshAll disk [file] { s with world := (p.tools.tick s.world).2 } with hs₁
  have hget : ∀ q, s₁.store.get? q = s.store.get? q := by
    intro q
    rw [hs₁, get?_refreshAll]
    split
    · next hq =>
        obtain rfl := List.mem_singleton.mp hq
        exact reread_eq_self (h.fresh q hfile)
    · rfl
  have hwarm : Warm p disk files b s₁ := h.congr hget (by rw [hs₁, refreshAll_build])
  have hprogram := program_of_warm hcached hwarm
  obtain ⟨rest, hrun, hanswers⟩ := run_of_asked hasked
  have hcheck : outcome (p.checkFile disk q) s = outcome (p.program disk >>= rest) s₁ := hrun
  obtain ⟨s₂, hout⟩ : ∃ s₂, outcome (p.program disk) s₁ = (.ok b, s₂) := ⟨_, Prod.ext hprogram rfl⟩
  rw [outcome_bind_of_ok hout] at hcheck
  have hkept := hanswers.keeps b s₂
  refine ⟨⟨s₁, b, h.build, hasked, hprogram⟩, ?_, ?_⟩
  · rw [hcheck, hanswers.said_eq hclock, verdict_single hrefreshed]
    cases p.fileRecords b.program file <;> rfl
  · rw [hcheck]
    exact (warm_of_program hcached hsearch hwarm.fresh hout).congr
      (fun q => by rw [hkept.1]) hkept.2

/-- A session in which some files were checked, one after the other. -/
def checkFiles (p : Project σ) (disk : Disk) (paths : List Text) (s : Session σ) : Session σ :=
  paths.foldl (fun s q => (outcome (p.checkFile disk q) s).2) s

theorem warm_checkFiles {p : Project σ} (hcached : p.noCache = false) (hclock : Clocked p.tools)
    (hsearch : FindsByDisk p.tools) {disk : Disk} {files : List Text} {b : Build}
    (hexists : ∀ file ∈ files, disk.isFile file = true) {earlier : List Text}
    (hearlier : ∀ q ∈ earlier, ∃ file ∈ files, p.resolve disk q = .ok file) {s : Session σ}
    (h : Warm p disk files b s) : Warm p disk files b (checkFiles p disk earlier s) := by
  induction earlier generalizing s with
  | nil => exact h
  | cons q earlier ih =>
      obtain ⟨file, hfile, hresolve⟩ := hearlier q List.mem_cons_self
      obtain ⟨-, -, hwarm⟩ := checkFile_of_warm hcached hclock hsearch h hfile hresolve
        (hexists file hfile)
      exact ih (fun q' hq' => hearlier q' (List.mem_cons_of_mem q hq')) hwarm

/-- What a program says about a file, if it holds the file. -/
def found (p : Project σ) (program : Program) (file : Text) : Option (List Record) :=
  (p.fileRecords program file).toOption

/-- The records of a file come out, or the program does not hold the file. -/
def Decided (p : Project σ) (program : Program) (file : Text) : Prop :=
  (∃ errors, p.fileRecords program file = .ok errors) ∨ OutOfScope (p.fileRecords program file)

theorem collected_of_decided {p : Project σ} {program : Program} {files : List Text}
    (h : ∀ file ∈ files, Decided p program file) :
    collected p program files =
      .ok (files.flatMap fun file => (found p program file).getD [],
        files.countP fun file => (found p program file).isSome) := by
  induction files with
  | nil => rfl
  | cons file files ih =>
      have hrest := ih fun file' hfile' => h file' (List.mem_cons_of_mem file hfile')
      unfold collected
      rcases h file List.mem_cons_self with ⟨errors, hrecords⟩ | ⟨absent, hrecords⟩
      · simp [hrecords, hrest, found, Except.toOption, Except.map]
      · simp [hrecords, hrest, found, Except.toOption]

theorem decided_of_collected {p : Project σ} {program : Program} {files : List Text}
    {verdict : List Record × Nat} (h : collected p program files = .ok verdict) :
    ∀ file ∈ files, Decided p program file := by
  induction files generalizing verdict with
  | nil => simp
  | cons file files ih =>
      rw [List.forall_mem_cons]
      unfold collected at h
      cases hrecords : p.fileRecords program file with
      | ok errors =>
          simp only [hrecords] at h
          cases hrest : collected p program files with
          | ok rest => exact ⟨.inl ⟨errors, hrecords⟩, ih hrest⟩
          | error failure => simp [hrest, Except.map] at h
      | error failure =>
          simp only [hrecords] at h
          split at h
          · next heq => cases heq
          · next absent heq => exact ⟨.inr ⟨absent, hrecords.trans heq⟩, ih h⟩
          · cases h

/-- A report holds what is said about some files, one file after the other, and counts the files
about which something is said. -/
def Gathers (p : Project σ) (about : Text → Option (List Record)) (files : List Text)
    (report : Report) : Prop :=
  report.errors = files.flatMap (fun file => (about file).getD []) ∧
    report.metrics.map (·.filesChecked) =
      if p.collectMetrics then some ((files.countP fun file => (about file).isSome : Nat) : Int)
      else none

/-- A check of one file gives what is said about it, and where nothing is said, it fails because
the program does not hold the file. -/
def Gives (p : Project σ) : Option (List Record) → Except Failure Report → Prop
  | some errors, answer => said answer = .ok (saying p (errors, 1))
  | none, answer => OutOfScope answer

theorem gathers_of_said {p : Project σ} {program : Program} {files : List Text}
    {answer : Except Failure Report} (h : ∀ file ∈ files, Decided p program file)
    (hsaid : said answer = (collected p program files).map (saying p)) :
    ∃ report, answer = .ok report ∧ Gathers p (found p program) files report := by
  rw [collected_of_decided h] at hsaid
  cases answer with
  | error failure => cases hsaid
  | ok report =>
      have heq := Except.ok.inj hsaid
      exact ⟨report, rfl, congrArg Prod.fst heq, congrArg Prod.snd heq⟩

theorem gives_of_said {p : Project σ} {program : Program} {file : Text}
    {answer : Except Failure Report} (h : Decided p program file)
    (hsaid : said answer = (p.fileRecords program file).map fun errors => saying p (errors, 1)) :
    Gives p (found p program file) answer := by
  rcases h with ⟨errors, hrecords⟩ | ⟨absent, hrecords⟩
  · rw [hrecords] at hsaid
    rw [found, hrecords]
    exact hsaid
  · rw [hrecords] at hsaid
    rw [found, hrecords]
    cases answer with
    | ok report => cases hsaid
    | error failure => exact ⟨absent, congrArg _ (Except.error.inj hsaid)⟩

theorem checkPaths_of_existing {p : Project σ} {disk : Disk} {paths files : List Text}
    (hexisting : p.existing disk paths = .ok files) (hfiles : files ≠ []) (s : Session σ) :
    ∃ rest, outcome (p.checkPaths disk paths) s = outcome (p.program disk >>= rest)
        (refreshAll disk files { s with world := (p.tools.tick s.world).2 }) ∧
      (∀ b, Keeps (rest b)) ∧ (Clocked p.tools → ∀ b s',
        said (outcome (rest b) s').1 = (collected p b.program files).map (saying p)) := by
  obtain ⟨rest, hrun, hanswers⟩ := run_changed hexisting hfiles s
  refine ⟨rest, hrun, hanswers.keeps, fun hclock b s' => ?_⟩
  rw [hanswers.said_eq hclock, verdict_changed hexisting]

theorem checkPaths_of_none {p : Project σ} (hclock : Clocked p.tools) {disk : Disk}
    {paths : List Text} (hexisting : p.existing disk paths = .ok []) (s : Session σ) :
    ∃ report, (outcome (p.checkPaths disk paths) s).1 = .ok report ∧
      Gathers p (fun _ => none) [] report := by
  have hasked : asked p disk (.changed paths) s = none := by
    simp [asked, refreshed, hexisting, needsProgram]
  have hsaid := (run_of_not_asked hasked).2 hclock ⟨[], []⟩
  rw [verdict_changed hexisting] at hsaid
  exact gathers_of_said (by simp) hsaid

theorem existing_of_checkPaths {p : Project σ} {disk : Disk} {paths : List Text} {s s' : Session σ}
    {report : Report} (h : outcome (p.checkPaths disk paths) s = (.ok report, s')) :
    ∃ files, p.existing disk paths = .ok files := by
  cases hexisting : p.existing disk paths with
  | ok files => exact ⟨files, rfl⟩
  | error failure =>
      have hrefreshed : refreshed p disk (.changed paths) = .error failure := hexisting
      have hrun : outcome (p.checkPaths disk paths) s = (.error failure, _) :=
        run_of_refreshed_error hrefreshed s
      cases hrun.symm.trans h

theorem checkPaths_ok {p : Project σ} (hcached : p.noCache = false) (hsearch : FindsByDisk p.tools)
    (hclock : Clocked p.tools) {disk : Disk} {paths files : List Text} {s s' : Session σ}
    {report : Report} (hexisting : p.existing disk paths = .ok files) (hfiles : files ≠ [])
    (h : outcome (p.checkPaths disk paths) s = (.ok report, s')) :
    ∃ b, (outcome (p.program disk)
        (refreshAll disk files { s with world := (p.tools.tick s.world).2 })).1 = .ok b ∧
      (∀ file ∈ files, Decided p b.program file) ∧ Gathers p (found p b.program) files report ∧
        Warm p disk files b s' := by
  obtain ⟨rest, hrun, hkeeps, hsaid⟩ := checkPaths_of_existing hexisting hfiles s
  rw [h] at hrun
  rcases hprogram : outcome (p.program disk)
      (refreshAll disk files { s with world := (p.tools.tick s.world).2 }) with ⟨failure | b, s₁⟩
  · rw [outcome_bind_of_error hprogram] at hrun
    cases hrun
  · rw [outcome_bind_of_ok hprogram] at hrun
    have hsaid' := hsaid hclock b s₁
    have hkept := hkeeps b s₁
    rw [← hrun] at hsaid' hkept
    obtain ⟨verdict, hverdict⟩ : ∃ verdict, collected p b.program files = .ok verdict := by
      cases hcollected : collected p b.program files with
      | ok verdict => exact ⟨verdict, rfl⟩
      | error failure =>
          rw [hcollected] at hsaid'
          cases hsaid'
    have hdecided := decided_of_collected hverdict
    obtain ⟨report', hreport', hgathers⟩ := gathers_of_said hdecided hsaid'
    obtain rfl := Except.ok.inj hreport'
    have hwarm := warm_of_program hcached hsearch (fresh_refreshAll disk files _) hprogram
    exact ⟨b, rfl, hdecided, hgathers, hwarm.congr (fun q => by rw [hkept.1]) hkept.2⟩

theorem checkPaths_of_perm {p : Project σ} (hclock : Clocked p.tools) {disk : Disk}
    {paths' files files' : List Text} {s : Session σ} {b : Build}
    (hprogram : (outcome (p.program disk)
      (refreshAll disk files { s with world := (p.tools.tick s.world).2 })).1 = .ok b)
    (hdecided : ∀ file ∈ files, Decided p b.program file)
    (hexisting : p.existing disk paths' = .ok files') (hperm : files'.Perm files)
    (hfiles : files' ≠ []) :
    ∃ report, (outcome (p.checkPaths disk paths') s).1 = .ok report ∧
      Gathers p (found p b.program) files' report := by
  obtain ⟨rest, hrun, -, hsaid⟩ := checkPaths_of_existing hexisting hfiles s
  have hview := sameView_refreshAll disk hperm { s with world := (p.tools.tick s.world).2 }
  obtain ⟨hanswer, -⟩ := respects_program (unasked_nil p disk _) _ hview
  rw [hprogram] at hanswer
  rw [hrun, outcome_bind_of_ok (Prod.ext hanswer rfl)]
  exact gathers_of_said (fun file hfile => hdecided file (hperm.mem_iff.mp hfile))
    (hsaid hclock b _)

/-- A check of several files that returns has the records of the files one after the other, as
checks of each of them would give them from then on, whatever name stands for the file and in
whatever order they are made. It counts the files that the program holds, and none of the checks
of single files builds again. Paths that are given in another order or more than once lead to the
same files, in some order, and to the same records for each. -/
theorem checkPaths_eq_checkFiles {p : Project σ} (hcached : p.noCache = false)
    (hsearch : FindsByDisk p.tools) (hclock : Clocked p.tools) {disk : Disk} {s s' : Session σ}
    {paths : List Text} {report : Report}
    (h : outcome (p.checkPaths disk paths) s = (.ok report, s')) :
    ∃ files about, p.existing disk paths = .ok files ∧ Gathers p about files report ∧
      (∀ earlier q file, (∀ q' ∈ earlier, ∃ file' ∈ files, p.resolve disk q' = .ok file') →
        file ∈ files → p.resolve disk q = .ok file →
          AtHand p disk (.single q) (checkFiles p disk earlier s') ∧
            Gives p (about file) (outcome (p.checkFile disk q) (checkFiles p disk earlier s')).1) ∧
      ∀ paths', (∀ q, q ∈ paths' ↔ q ∈ paths) →
        ∃ files' report', p.existing disk paths' = .ok files' ∧ files'.Perm files ∧
          (outcome (p.checkPaths disk paths') s).1 = .ok report' ∧
            Gathers p about files' report' := by
  obtain ⟨files, hexisting⟩ := existing_of_checkPaths h
  by_cases hfiles : files = []
  · subst hfiles
    obtain ⟨report', hreport', hgathers⟩ := checkPaths_of_none hclock hexisting s
    rw [h] at hreport'
    obtain rfl := Except.ok.inj hreport'
    refine ⟨[], fun _ => none, hexisting, hgathers, by simp, fun paths' hsame => ?_⟩
    obtain ⟨files', hexisting', hperm⟩ := existing_of_mem_iff hexisting hsame
    obtain rfl := hperm.eq_nil
    obtain ⟨report', hreport', hgathers'⟩ := checkPaths_of_none hclock hexisting' s
    exact ⟨[], report', hexisting', hperm, hreport', hgathers'⟩
  · obtain ⟨b, hprogram, hdecided, hgathers, hwarm⟩ :=
      checkPaths_ok hcached hsearch hclock hexisting hfiles h
    have hisFile : ∀ file ∈ files, disk.isFile file = true :=
      fun file hfile => ((mem_existing hexisting file).mp hfile).2
    refine ⟨files, found p b.program, hexisting, hgathers, ?_, fun paths' hsame => ?_⟩
    · intro earlier q file hearlier hfile hresolve
      have hwarm' := warm_checkFiles hcached hclock hsearch hisFile hearlier hwarm
      obtain ⟨hathand, hsays, -⟩ :=
        checkFile_of_warm hcached hclock hsearch hwarm' hfile hresolve (hisFile file hfile)
      exact ⟨hathand, gives_of_said (hdecided file hfile) hsays⟩
    · obtain ⟨files', hexisting', hperm⟩ := existing_of_mem_iff hexisting hsame
      have hfiles' : files' ≠ [] := by
        rintro rfl
        exact hfiles hperm.symm.eq_nil
      obtain ⟨report', hreport', hgathers'⟩ :=
        checkPaths_of_perm hclock hprogram hdecided hexisting' hperm hfiles'
      exact ⟨files', report', hexisting', hperm, hreport', hgathers'⟩

open FreshAnswers (steady dependable_steady alone aloneDisk project)

theorem findsByDisk_steady : FindsByDisk steady :=
  fun disk targets => dependable_steady.discover disk targets true

theorem eq_ok_of_isSome {α : Type} {answer : Except Failure α}
    (h : answer.toOption.isSome = true) : ∃ a, answer = .ok a := by
  cases answer with
  | ok a => exact ⟨a, rfl⟩
  | error failure => cases h

theorem outcome_eq_of_fst {α : Type} {x : Activity σ α} {s : Session σ} {answer : Except Failure α}
    (h : (outcome x s).1 = answer) : outcome x s = (answer, (outcome x s).2) :=
  Prod.ext h rfl

/-- The file by two names. -/
def twice : List Text := [['a', '.', 'p', 'y'], ['/', 'a', '.', 'p', 'y']]

theorem checkPaths_eq_checkFiles_twice :
    ∃ report s' about,
      outcome (alone.checkPaths aloneDisk twice) { world := {} } = (.ok report, s') ∧
      Gathers alone about [['/', 'a', '.', 'p', 'y']] report ∧
      Gives alone (about ['/', 'a', '.', 'p', 'y'])
        (outcome (alone.checkFile aloneDisk ['a', '.', 'p', 'y']) s').1 := by
  have hisSome :
      (outcome (alone.checkPaths aloneDisk twice) { world := {} }).1.toOption.isSome = true := by
    decide +kernel
  have hexisting : alone.existing aloneDisk twice = .ok [['/', 'a', '.', 'p', 'y']] := by
    decide +kernel
  have hresolve : alone.resolve aloneDisk ['a', '.', 'p', 'y'] = .ok ['/', 'a', '.', 'p', 'y'] := by
    decide +kernel
  obtain ⟨report, hreport⟩ := eq_ok_of_isSome hisSome
  have hchecked := outcome_eq_of_fst hreport
  obtain ⟨files, about, hfiles, hgathers, hsingle, -⟩ := checkPaths_eq_checkFiles (p := alone) rfl
    findsByDisk_steady dependable_steady.clock hchecked
  obtain rfl := Except.ok.inj (hexisting.symm.trans hfiles)
  obtain ⟨-, hgives⟩ := hsingle [] _ _ (by simp) List.mem_cons_self hresolve
  exact ⟨report, _, about, hchecked, hgathers, hgives⟩

/-- A project with one file that is a link, on a disk where another link leads to itself. -/
def looping : Project Rehearsal.World := project [['l', '.', 'p', 'y']]

def loopDisk : Disk :=
  ⟨[(['l', '.', 'p', 'y'], .link ['t']), (['o'], .link ['o']), (['t'], .file (Text.toBytes []) 0)]⟩

/-- Past a link that leads to itself no link is followed. So a file can be checked under a name
that goes by such a link, and not under the name that the file is taken for. -/
theorem not_checkFile_looping :
    looping.existing loopDisk [['o', '/', '.', '.', '/', 'l', '.', 'p', 'y']] =
        .ok [['/', 'l', '.', 'p', 'y']] ∧
      ((outcome (looping.checkPaths loopDisk [['o', '/', '.', '.', '/', 'l', '.', 'p', 'y']])
        { world := {} }).1.map fun report => report.metrics.map (·.filesChecked)) =
        .ok (some 1) ∧
      (outcome (looping.checkFile loopDisk ['/', 'l', '.', 'p', 'y'])
        (outcome (looping.checkPaths loopDisk [['o', '/', '.', '.', '/', 'l', '.', 'p', 'y']])
          { world := {} }).2).1 = .error (.fault (.notInProgram ['/', 't'])) := by
  refine ⟨?_, ?_, ?_⟩ <;> decide +kernel

end Recheck.Proofs.BatchChecks
