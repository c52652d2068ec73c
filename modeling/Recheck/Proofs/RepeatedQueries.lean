import Recheck.Proofs.BatchChecks
import Recheck.Proofs.Creations

/-!
A query that is made a second time. The first time has read what there was to read, and left a
program with the versions of the moment; so the second time finds every text as it is on the disk,
and the session stays as it was.
-/

namespace Recheck.Proofs.RepeatedQueries

open Recheck.Proofs.Activities
open Recheck.Proofs.BatchChecks
open Recheck.Proofs.Creations
open Recheck.Proofs.DiskPrograms
open Recheck.Proofs.Programs
open Recheck.Proofs.Queries
open Recheck.Proofs.SessionRuns
open Recheck.Proofs.Snapshots
open Recheck.SnapshotStore

variable {σ : Type} {p : Project σ} {disk : Disk}

/-- A file that the disk has is in the store, with no other text than the disk's. -/
def Settled (disk : Disk) (path : Text) (store : SnapshotStore) : Prop :=
  ∀ content, disk.text? path = some content → store.contains path = true ∧
    ∀ snapshot ∈ store.snapshots, snapshot.path = path → snapshot.content = content

theorem update_of_settled {store : SnapshotStore} {path content : Text}
    (h : Settled disk path store) (htext : disk.text? path = some content) :
    store.update path content false = store := by
  obtain ⟨hcontains, hcontent⟩ := h content htext
  have hsame : ∀ snapshot ∈ store.snapshots,
      (if snapshot.path = path then renew content false snapshot else snapshot) = snapshot := by
    intro snapshot hmem
    split
    · next hpath => exact renew_of_content (hcontent snapshot hmem hpath)
    · rfl
  rw [update, if_pos hcontains, List.map_congr_left hsame, List.map_id']

theorem of_mem_update {store : SnapshotStore} {path content : Text} {force : Bool}
    {snapshot : Snapshot} (h : snapshot ∈ (store.update path content force).snapshots) :
    snapshot ∈ store.snapshots ∧ snapshot.path ≠ path ∨
      snapshot.path = path ∧ snapshot.content = content := by
  unfold update at h
  split at h
  · obtain ⟨before, hbefore, rfl⟩ := List.mem_map.mp h
    split
    · next hpath => exact .inr ⟨(renew_path ..).trans hpath, renew_content content force before⟩
    · next hpath => exact .inl ⟨hbefore, hpath⟩
  · next habsent =>
      rcases List.mem_append.mp h with hmem | hmem
      · refine .inl ⟨hmem, fun hpath => habsent ?_⟩
        rw [contains, get?, List.find?_isSome]
        exact ⟨snapshot, hmem, by simpa using hpath⟩
      · obtain rfl := List.mem_singleton.mp hmem
        exact .inr ⟨rfl, rfl⟩

theorem settled_update_self {path content : Text} (htext : disk.text? path = some content)
    (store : SnapshotStore) (force : Bool) :
    Settled disk path (store.update path content force) := by
  intro content' htext'
  obtain rfl := Option.some.inj (htext.symm.trans htext')
  constructor
  · rw [contains, get?_update, if_pos rfl]
    rfl
  · intro snapshot hmem hpath
    rcases of_mem_update hmem with ⟨-, hother⟩ | ⟨-, hcontent⟩
    · exact absurd hpath hother
    · exact hcontent

theorem settled_update_of_ne {path q content : Text} (hne : path ≠ q) {store : SnapshotStore}
    (h : Settled disk path store) (force : Bool) :
    Settled disk path (store.update q content force) := by
  intro text htext
  obtain ⟨hcontains, hcontent⟩ := h text htext
  constructor
  · rw [contains, get?_update, if_neg hne]
    exact hcontains
  · intro snapshot hmem hpath
    rcases of_mem_update hmem with ⟨hbefore, -⟩ | ⟨hq, -⟩
    · exact hcontent snapshot hbefore hpath
    · exact absurd (hpath.symm.trans hq) hne

theorem settled_refresh_self (disk : Disk) (path : Text) (force : Bool) (s : Session σ) :
    Settled disk path (s.refresh disk path force).store := by
  unfold Session.refresh
  cases htext : disk.text? path with
  | some content => exact settled_update_self htext s.store force
  | none =>
      intro content htext'
      cases htext.symm.trans htext'

theorem settled_refresh {path : Text} {s : Session σ} (h : Settled disk path s.store) (q : Text)
    (force : Bool) : Settled disk path (s.refresh disk q force).store := by
  by_cases hpath : path = q
  · subst hpath
    exact settled_refresh_self disk path force s
  · unfold Session.refresh
    cases disk.text? q with
    | some content => exact settled_update_of_ne hpath h force
    | none => exact h

theorem settled_refreshAll {path : Text} {paths : List Text} (hpath : path ∈ paths)
    (s : Session σ) : Settled disk path (refreshAll disk paths s).store := by
  have hkeep : ∀ (paths : List Text) {s : Session σ}, Settled disk path s.store →
      Settled disk path (refreshAll disk paths s).store := by
    intro paths
    induction paths with
    | nil => exact id
    | cons q paths ih =>
        intro s h
        exact ih (settled_refresh h q false)
  induction paths generalizing s with
  | nil => cases hpath
  | cons q paths ih =>
      rcases List.mem_cons.mp hpath with heq | hmem
      · subst heq
        exact hkeep paths (settled_refresh_self disk path false s)
      · exact ih hmem _

theorem settled_ensureRead {path : Text} {s : Session σ} (h : Settled disk path s.store)
    (q : Text) : Settled disk path (s.ensureRead disk q).store := by
  unfold Session.ensureRead
  split
  · exact h
  · exact settled_refresh h q false

theorem settled_readAll {path : Text} {s : Session σ} (h : Settled disk path s.store)
    (again : Bool) (paths : List Text) : Settled disk path (s.readAll disk again paths).store := by
  induction paths generalizing s with
  | nil => exact h
  | cons q paths ih =>
      apply ih
      split
      · exact settled_refresh h q true
      · exact settled_ensureRead h q

theorem settled_withTexts {path : Text} {s : Session σ} (h : Settled disk path s.store)
    (sources : List Source) :
    Settled disk path (Session.withTexts p.directory disk sources s).2.store := by
  induction sources generalizing s with
  | nil => exact h
  | cons source sources ih =>
      cases hfile : fileOf p.directory source with
      | none =>
          rw [withTexts_cons_of_none hfile]
          exact ih h
      | some file =>
          rw [withTexts_cons_of_some hfile]
          exact ih (settled_ensureRead h file)

theorem settled_prune {path : Text} {s : Session σ} (h : Settled disk path s.store)
    (roots : List Text) : Settled disk path (s.prune disk roots).store := by
  intro content htext
  obtain ⟨hcontains, hcontent⟩ := h content htext
  have hexists := exists?_of_isFile (isFile_of_text? htext)
  constructor
  · rw [contains, get?_session_prune, hexists, Bool.or_true, if_pos rfl]
    exact hcontains
  · simp only [Session.prune]
    split
    · exact hcontent
    · intro snapshot hmem
      exact hcontent snapshot (List.mem_of_mem_filter hmem)

/-- Whatever the activity comes to, it leaves a file settled. -/
def Settles {α : Type} (disk : Disk) (path : Text) (x : Activity σ α) : Prop :=
  ∀ s, Settled disk path s.store → Settled disk path (outcome x s).2.store

theorem Settles.bind {α β : Type} {path : Text} {x : Activity σ α} {f : α → Activity σ β}
    (hx : Settles disk path x) (hf : ∀ a, Settles disk path (f a)) :
    Settles disk path (x >>= f) :=
  outcome_bind_related (fun s s' => Settled disk path s.store → Settled disk path s'.store)
    (fun h h' hs => h' (h hs)) hx hf

theorem settles_of_keeps {α : Type} {path : Text} {x : Activity σ α} (h : Keeps x) :
    Settles disk path x := by
  intro s hs
  rw [(h s).1]
  exact hs

theorem settles_rootFiles (p : Project σ) (disk : Disk) (path : Text) :
    Settles disk path (p.rootFiles disk) := by
  apply settles_of_keeps
  intro s
  obtain ⟨w, hroots⟩ := outcome_rootFiles p disk s
  rw [hroots]
  exact ⟨rfl, rfl⟩

theorem settles_createProgram (p : Project σ) (disk : Disk) (path : Text) :
    Settles disk path (p.createProgram disk) := by
  unfold Project.createProgram
  refine (settles_rootFiles p disk path).bind fun roots =>
    Settles.bind (fun _ => id) fun found => ?_
  cases found with
  | error reason => exact fun _ => id
  | ok found =>
      have hread : Settles disk path
          (modifyGet (Session.withTexts p.directory disk found) : Activity σ (List Source)) :=
        fun _ h => settled_withTexts h found
      refine hread.bind fun sources => Settles.bind (fun _ => id) fun built => ?_
      cases built with
      | failed failure => exact fun _ => id
      | blocked lines module =>
          exact Settles.bind (fun _ => id) fun _ =>
            (settles_of_keeps (keeps_lift _)).bind fun _ _ => id
      | finished lines loaded => exact (settles_of_keeps (keeps_lift _)).bind fun _ _ => id

theorem settles_program (p : Project σ) (disk : Disk) (path : Text) :
    Settles disk path (p.program disk) := by
  intro s h
  rcases hroots : outcome (p.rootFiles disk) s with ⟨failure | paths, found⟩
  all_goals have hfound := settles_rootFiles p disk path s h
  all_goals rw [hroots] at hfound
  · rw [program_of_rootless hroots]
    exact hfound
  · have hread := settled_readAll hfound p.noCache paths
    rw [program_of_roots hroots rfl]
    split
    · exact hread
    · have hcreate := (settles_createProgram p disk path).bind fun made =>
        show Settles disk path (keeping paths (found.readAll disk p.noCache paths) made) from
          fun _ => id
      exact hcreate _ (settled_prune hread paths)

/-- A session with the snapshots, the program and the messages of another one. -/
structure Still (s s' : Session σ) : Prop where
  kept : Kept s s'
  statuses : statuses s' = statuses s

theorem Still.refl (s : Session σ) : Still s s := ⟨⟨rfl, rfl⟩, rfl⟩

theorem Still.trans {s s' s'' : Session σ} (h : Still s s') (h' : Still s' s'') : Still s s'' :=
  ⟨h.kept.trans h'.kept, h'.statuses.trans h.statuses⟩

theorem still_world (s : Session σ) (w : σ) : Still s { s with world := w } := ⟨⟨rfl, rfl⟩, rfl⟩

theorem still_refresh {path : Text} {s : Session σ} (h : Settled disk path s.store) :
    Still s (s.refresh disk path false) := by
  unfold Session.refresh
  cases htext : disk.text? path with
  | some content => exact ⟨⟨update_of_settled h htext, rfl⟩, rfl⟩
  | none => exact ⟨⟨rfl, rfl⟩, rfl⟩

theorem still_refreshAll {paths : List Text} {s : Session σ}
    (h : ∀ path ∈ paths, Settled disk path s.store) : Still s (refreshAll disk paths s) := by
  induction paths generalizing s with
  | nil => exact .refl s
  | cons path paths ih =>
      obtain ⟨hpath, hpaths⟩ := List.forall_mem_cons.mp h
      have hstill := still_refresh hpath
      refine hstill.trans (ih ?_)
      rw [hstill.kept.1]
      exact hpaths

/-- A file that is not in the store cannot be read. -/
def Read (disk : Disk) (path : Text) (store : SnapshotStore) : Prop :=
  store.get? path = none → disk.text? path = none

theorem still_ensureRead {path : Text} {s : Session σ} (h : Read disk path s.store) :
    Still s (s.ensureRead disk path) := by
  unfold Session.ensureRead Session.refresh
  split
  · exact .refl s
  · next habsent =>
      have hnone : s.store.get? path = none := by
        simp only [contains, Bool.or_eq_true, not_or, Option.isSome_iff_ne_none, ne_eq,
          not_not] at habsent
        exact habsent.1
      rw [h hnone]
      exact ⟨⟨rfl, rfl⟩, rfl⟩

theorem still_readAll {paths : List Text} {s : Session σ}
    (h : ∀ path ∈ paths, Read disk path s.store) : Still s (s.readAll disk false paths) := by
  induction paths generalizing s with
  | nil => exact .refl s
  | cons path paths ih =>
      obtain ⟨hpath, hpaths⟩ := List.forall_mem_cons.mp h
      have hstill := still_ensureRead hpath
      refine hstill.trans (ih ?_)
      rw [hstill.kept.1]
      exact hpaths

theorem read_of_program (hcached : p.noCache = false) {s s' : Session σ} {b : Build}
    (h : outcome (p.program disk) s = (.ok b, s')) {paths : List Text}
    (hroots : rootsAt p disk s.world = .ok paths) {path : Text} (hpath : path ∈ paths) :
    Read disk path s'.store := by
  have hfilled : ∀ more : Option Snapshot,
      (readWith disk paths s path).or more = none → disk.text? path = none := by
    intro more hnone
    rw [readWith_of_mem hpath, Option.or_eq_none_iff, Option.or_eq_none_iff] at hnone
    simpa [first] using hnone.1.2
  intro hnone
  have hends := program_ends hcached disk s
  rw [h] at hends
  cases hends with
  | @reused paths' b s' hroots' hstored hversions hget hbuild =>
      obtain rfl := Except.ok.inj (hroots'.symm.trans hroots)
      rw [hget] at hnone
      exact hfilled none (by rw [Option.or_none, hnone])
  | @built paths' roots' w w' w'' found b s' hroots' hstale hroots'' hfound hget hsources hprogram
      hversions hnumber hbuild =>
      obtain rfl := Except.ok.inj (hroots'.symm.trans hroots)
      rw [hget, prunedTo_of_mem hpath] at hnone
      exact hfilled _ hnone

/-- What a request leaves behind that got its program for some files: the program has the versions
of the moment, and whatever can be read was read. -/
structure Rested (p : Project σ) (disk : Disk) (files : List Text) (b : Build) (s : Session σ) :
    Prop where
  warm : Warm p disk files b s
  settled : ∀ file ∈ files, Settled disk file s.store
  read : ∀ paths w, rootsAt p disk w = .ok paths → ∀ path ∈ paths, Read disk path s.store

theorem Rested.congr {files : List Text} {b : Build} {s s' : Session σ}
    (h : Rested p disk files b s) (hkept : Kept s s') : Rested p disk files b s' := by
  refine ⟨h.warm.congr (fun q => by rw [hkept.1]) hkept.2, ?_, ?_⟩
  · rw [hkept.1]
    exact h.settled
  · rw [hkept.1]
    exact h.read

theorem rested_of_program (hcached : p.noCache = false) (hsearch : FindsByDisk p.tools)
    {files : List Text} {s s' : Session σ} {b : Build}
    (h : outcome (p.program disk) (refreshAll disk files s) = (.ok b, s')) :
    Rested p disk files b s' where
  warm := warm_of_program hcached hsearch (fresh_refreshAll disk files s) h
  settled file hfile := by
    have hsettles := settles_program p disk file _ (settled_refreshAll hfile s)
    rwa [h] at hsettles
  read paths w hroots path hpath :=
    read_of_program hcached h ((rootsAt_of_search hsearch disk _ w).trans hroots) hpath

theorem program_of_rested (hcached : p.noCache = false) {files : List Text} {b : Build}
    {s : Session σ} (h : Rested p disk files b s) :
    ∃ s', outcome (p.program disk) s = (.ok b, s') ∧ Still s s' := by
  obtain ⟨paths, hworld, hversions⟩ := h.warm.versions
  obtain ⟨w, hroots⟩ := outcome_rootFiles p disk s
  rw [hworld] at hroots
  set found : Session σ := { s with world := w } with hfound
  have hstill : Still s (found.readAll disk p.noCache paths) := by
    have hread : ∀ path ∈ paths, Read disk path found.store := h.read paths w (hworld w)
    rw [hcached]
    exact (still_world s w).trans (still_readAll hread)
  have hcurrent : Project.current? ((found.readAll disk p.noCache paths).versionsOf paths)
      (found.readAll disk p.noCache paths) = some b := by
    rw [current?_eq_some_iff, hstill.kept.2, hcached, versionsOf_readAll]
    exact ⟨h.warm.build, hversions⟩
  refine ⟨_, ?_, hstill⟩
  rw [program_of_roots hroots rfl, hcurrent]

theorem ok_of_said {answer : Except Failure Report} {report : Report}
    (h : said answer = said (.ok report)) : ∃ report', answer = .ok report' ∧
      report'.errors = report.errors ∧
      report'.metrics.map (·.filesChecked) = report.metrics.map (·.filesChecked) := by
  obtain ⟨report', rfl, heq⟩ := exists_of_map_eq_ok h
  exact ⟨report', rfl, congrArg Prod.fst heq, congrArg Prod.snd heq⟩

theorem not_recreates_of_rested (hcached : p.noCache = false) {files : List Text} {b : Build}
    {s : Session σ} (h : Rested p disk files b s) : ¬ Recreates p disk s := by
  intro hrecreates
  obtain ⟨s', hprogram, -⟩ := program_of_rested hcached h
  have hnumber := number_of_recreates hrecreates (b := b) (by rw [hprogram])
  rw [h.warm.build] at hnumber
  simp at hnumber

/-- A session that answers a request with what a report says, from the program at hand if it needs
one, and stays as it is. -/
structure Repeats (p : Project σ) (disk : Disk) (request : Request) (report : Report)
    (s : Session σ) : Prop where
  same : said (outcome (p.run disk request) s).1 = said (.ok report)
  still : Still s (outcome (p.run disk request) s).2
  stored : ∀ s₁, asked p disk request s = some s₁ → ¬ Recreates p disk s₁

theorem repeats_of_rested (hcached : p.noCache = false) (hclock : Clocked p.tools)
    {request : Request} {files : List Text} (hrefreshed : refreshed p disk request = .ok files)
    (hneeds : needsProgram request files = true) {b : Build} {s : Session σ}
    (h : Rested p disk files b s) {report : Report}
    (hsaid : said (.ok report) = (verdict p disk request b.program).map (saying p)) :
    Repeats p disk request report s := by
  -- The files are read again, and are as they were.
  have hstill := (still_world s (p.tools.tick s.world).2).trans (still_refreshAll h.settled)
  have hrested := h.congr hstill.kept
  have hasked := asked_of_refreshed hrefreshed s
  rw [if_pos hneeds] at hasked
  obtain ⟨rest, hrun, hanswers⟩ := run_of_asked hasked
  obtain ⟨read, hprogram, hstill'⟩ := program_of_rested hcached hrested
  rw [outcome_bind_of_ok hprogram] at hrun
  constructor
  case same => rw [hrun, hanswers.said_eq hclock, hsaid]
  case still =>
    rw [hrun]
    exact (hstill.trans hstill').trans ⟨hanswers.keeps b read, hanswers.quiet b read⟩
  case stored =>
    intro s₁ hs₁
    obtain rfl := Option.some.inj (hasked.symm.trans hs₁)
    exact not_recreates_of_rested hcached hrested

theorem repeats_of_asked (hcached : p.noCache = false) (hsearch : FindsByDisk p.tools)
    (hclock : Clocked p.tools) {request : Request} {s s₁ s' : Session σ} {report : Report}
    (hasked : asked p disk request s = some s₁)
    (h : outcome (p.run disk request) s = (.ok report, s')) (w : σ) :
    Repeats p disk request report { s' with world := w } := by
  cases hrefreshed : refreshed p disk request with
  | error failure => simp [asked_of_error hrefreshed] at hasked
  | ok files =>
      obtain ⟨rest, hrun, hanswers⟩ := run_of_asked hasked
      rw [asked_of_refreshed hrefreshed] at hasked
      obtain ⟨hneeds, rfl⟩ := Option.ite_none_right_eq_some.mp hasked |>.imp_right Option.some.inj
      rw [h] at hrun
      rcases hprogram : outcome (p.program disk) (refreshAll disk files
          { s with world := (p.tools.tick s.world).2 }) with ⟨failure | b, read⟩
      · rw [outcome_bind_of_error hprogram] at hrun
        cases hrun
      · rw [outcome_bind_of_ok hprogram] at hrun
        have hsaid := hanswers.said_eq hclock b read
        have hkept := hanswers.keeps b read
        rw [← hrun] at hsaid hkept
        have hrested := (rested_of_program hcached hsearch hprogram).congr hkept
        exact repeats_of_rested hcached hclock hrefreshed hneeds
          (hrested.congr (still_world s' w).kept) hsaid

theorem repeats_of_not_asked (hclock : Clocked p.tools) {request : Request} {s s' : Session σ}
    {report : Report} (hasked : asked p disk request s = none)
    (h : outcome (p.run disk request) s = (.ok report, s')) (w : σ) :
    Repeats p disk request report { s' with world := w } := by
  obtain ⟨⟨paths, rfl, hexisting⟩, -⟩ := errors_of_not_asked hasked (by rw [h])
  have hsaid := said_report hclock [] s.world 0 { s with world := (p.tools.tick s.world).2 }
  rw [← run_changed_none hexisting, h] at hsaid
  have hnone : asked p disk (.changed paths) { s' with world := w } = none := by
    simp [asked, refreshed, hexisting, needsProgram]
  constructor
  case same => rw [run_changed_none hexisting, said_report hclock, hsaid]
  case still =>
    rw [run_changed_none hexisting]
    exact (still_world _ _).trans ⟨keeps_report p [] _ 0 _, quiet_report p [] _ 0 _⟩
  case stored =>
    intro s₁ hs₁
    cases hnone.symm.trans hs₁

/-- A request that got a report gets it again, as long as the disk stays as it is: with the same
errors and the same number of checked files, and without another program. The snapshots, the
program with the versions that it was built from, and the messages to the observer stay as the
first time has left them. -/
theorem run_again (hcached : p.noCache = false) (hsearch : FindsByDisk p.tools)
    (hclock : Clocked p.tools) {request : Request} {s s' : Session σ} {report : Report}
    (h : outcome (p.run disk request) s = (.ok report, s')) (w : σ) :
    ∃ report' s'', outcome (p.run disk request) { s' with world := w } = (.ok report', s'') ∧
      report'.errors = report.errors ∧
      report'.metrics.map (·.filesChecked) = report.metrics.map (·.filesChecked) ∧
      s''.store = s'.store ∧ s''.build = s'.build ∧ statuses s'' = statuses s' ∧
      ∀ s₂, asked p disk request { s' with world := w } = some s₂ → ¬ Recreates p disk s₂ := by
  have hagain : Repeats p disk request report { s' with world := w } := by
    cases hasked : asked p disk request s with
    | none => exact repeats_of_not_asked hclock hasked h w
    | some s₁ => exact repeats_of_asked hcached hsearch hclock hasked h w
  obtain ⟨report', hreport, herrors, hchecked⟩ := ok_of_said hagain.same
  exact ⟨report', _, outcome_eq_of_fst hreport, herrors, hchecked, hagain.still.kept.1,
    hagain.still.kept.2, hagain.still.statuses, hagain.stored⟩

open FreshAnswers (project marked dependable_steady)

/-- A project with two source files. -/
def paired : Project Rehearsal.World := project [['a', '.', 'p', 'y'], ['b', '.', 'p', 'y']]

/-- A disk where one of the source files is no text, and another file is no source file. -/
def pairedDisk (first : Node) : Disk :=
  ⟨[(['a', '.', 'p', 'y'], first), (['b', '.', 'p', 'y'], .file ⟨#[255]⟩ 0),
    (['n'], .file (Text.toBytes ['n']) 0)]⟩

/-- A source file on which the compiler breaks down. -/
def fatal : Node := .file (Text.toBytes ['#', '!', ' ', 'x']) 0

/-- The session that could not build, and then saw the file put right. -/
def recovered : State Rehearsal.World :=
  run paired (start (pairedDisk fatal) {}) [.query .whole, .edit (pairedDisk marked) {}]

/-- The first source file by two names, and the file that is none. -/
def several : Request := .changed [['a', '.', 'p', 'y'], ['n'], ['/', 'a', '.', 'p', 'y']]

theorem run_again_recovered :
    (outcome (paired.run (pairedDisk fatal) .whole) { world := {} }).1.toOption.isSome = false ∧
      ∃ report report' s' s'',
        outcome (paired.run (pairedDisk marked) several) recovered.session = (.ok report, s') ∧
        outcome (paired.run (pairedDisk marked) several) s' = (.ok report', s'') ∧
        report'.errors = report.errors ∧
        report'.metrics.map (·.filesChecked) = report.metrics.map (·.filesChecked) ∧
        s''.store = s'.store ∧ s''.build = s'.build ∧ statuses s'' = statuses s' := by
  have hisSome : (outcome (paired.run (pairedDisk marked) several)
      recovered.session).1.toOption.isSome = true := by decide +kernel
  obtain ⟨report, hreport⟩ := eq_ok_of_isSome hisSome
  obtain ⟨s', hfirst⟩ : ∃ s', outcome (paired.run (pairedDisk marked) several) recovered.session =
      (.ok report, s') := ⟨_, outcome_eq_of_fst hreport⟩
  obtain ⟨report', s'', hsecond, herrors, hchecked, hstore, hbuild, hstatuses, -⟩ :=
    run_again (p := paired) rfl findsByDisk_steady dependable_steady.clock hfirst s'.world
  exact ⟨by decide +kernel, report, report', s', s'', hfirst, hsecond, herrors, hchecked, hstore,
    hbuild, hstatuses⟩

end Recheck.Proofs.RepeatedQueries
