import Recheck.Proofs.DiskPrograms
import Recheck.Proofs.ProgramReuse
import Recheck.Rehearsal.World

/-!
What a session that has been at work answers, compared with a new one on the same disk. Both ask
for a program, and as long as snapshots say what the disk says and the sources are those of the
program at hand, the two programs are alike.
-/

namespace Recheck.Proofs.FreshAnswers

open Recheck.Proofs.Activities
open Recheck.Proofs.DiskPrograms
open Recheck.Proofs.Programs
open Recheck.Proofs.ProgramReuse
open Recheck.Proofs.Queries
open Recheck.Proofs.SessionRuns
open Recheck.Proofs.Snapshots

variable {σ : Type}

/-- The source files of the moment can be read. -/
def Readable (p : Project σ) (disk : Disk) (s : Session σ) : Prop :=
  ∀ paths, (outcome (p.rootFiles disk) s).1 = .ok paths →
    ∀ path ∈ paths, ∃ content, disk.text? path = some content

/-- Where an event asks for the program, the source files can be read, and no new program fails
to be made. -/
def Smooth (p : Project σ) (st : State σ) (e : Event σ) : Prop :=
  ∀ s, calls p st e = some s → Readable p st.disk s ∧
    ∀ paths, (outcome (p.rootFiles st.disk) s).1 = .ok paths →
      ∃ b, (outcome (p.program st.disk) s).1 = .ok b

def SmoothRun (p : Project σ) (st : State σ) (events : List (Event σ)) : Prop :=
  ∀ before e after, events = before ++ e :: after → Smooth p (run p st before) e

theorem smoothRun_nil (p : Project σ) (st : State σ) : SmoothRun p st [] := by
  rintro before e after h
  simp at h

theorem smoothRun_cons {p : Project σ} {st : State σ} {e : Event σ} {events : List (Event σ)}
    (h : Smooth p st e) (hrest : SmoothRun p (step p st e) events) :
    SmoothRun p st (e :: events) := by
  rintro (_ | ⟨e', before⟩) e'' after heq
  · obtain ⟨rfl, -⟩ := List.cons.inj heq
    exact h
  · obtain ⟨rfl, rfl⟩ := List.cons.inj heq
    exact hrest before e'' after rfl

theorem SmoothRun.of_append {p : Project σ} {st : State σ} {before after : List (Event σ)}
    (h : SmoothRun p st (before ++ after)) : SmoothRun p st before := by
  rintro earlier e later rfl
  exact h earlier e (later ++ after) (by simp)

theorem isSome_of_ends {p : Project σ} {disk : Disk} {s s' : Session σ}
    {answer : Except Failure Build} (h : Ends p disk s (answer, s'))
    (hreadable : ∀ paths, rootsAt p disk s.world = .ok paths →
      ∀ path ∈ paths, ∃ content, disk.text? path = some content)
    (hok : ∀ paths, rootsAt p disk s.world = .ok paths → ∃ b, answer = .ok b) {b : Build}
    (hb : s'.build = some b) :
    (s.build = some b ∧
        ∀ path, (s.store.get? path).isSome = true → (s'.store.get? path).isSome = true) ∨
      ∀ path ∈ roots b, (s'.store.get? path).isSome = true := by
  cases h with
  | rootless hkept hroots =>
      left
      exact ⟨hkept.2 ▸ hb, fun path hpath => by rwa [hkept.1]⟩
  | reused hroots hstored hversions hget hbuild =>
      left
      refine ⟨hstored.trans (hbuild ▸ hb), fun path hpath => ?_⟩
      rw [hget, readWith, Option.isSome_or, hpath, Bool.true_or]
  | unfound hroots hstale hfound hget hbuild => simpa using hok _ hroots
  | unbuilt hroots hstale hroots' hfound hget hprogram hbuild => simpa using hok _ hroots
  | built hroots hstale hroots' hfound hget hsources hprogram hversions hnumber hbuild =>
      right
      obtain rfl := Option.some.inj (hbuild.symm.trans hb)
      intro path hpath
      rw [mem_roots_versionsAt hversions] at hpath
      obtain ⟨content, htext⟩ := hreadable _ hroots path hpath
      simp [hget, prunedTo_of_mem hpath, readWith_of_mem hpath, first, htext]

theorem isSome_of_smooth {p : Project σ} (hcached : p.noCache = false) {st : State σ} {e : Event σ}
    (hsmooth : Smooth p st e) {b : Build} (hb : (step p st e).session.build = some b) :
    (st.session.build = some b ∧ ∀ path, (st.session.store.get? path).isSome = true →
        ((step p st e).session.store.get? path).isSome = true) ∨
      ∀ path ∈ roots b, ((step p st e).session.store.get? path).isSome = true := by
  have hisSome : ∀ {path : Text} {store store' : SnapshotStore}, GrowsAt path store store' →
      (store.get? path).isSome = true → (store'.get? path).isSome = true := by
    intro path store store' hgrows h
    obtain ⟨snapshot, hsnapshot⟩ := Option.isSome_iff_exists.mp h
    obtain ⟨snapshot', hsnapshot', -, -⟩ := hgrows snapshot hsnapshot
    rw [hsnapshot', Option.isSome_some]
  rcases step_cases p st e with ⟨hbuild, hgrows⟩ | ⟨s, hcall, hkept⟩
  · exact .inl ⟨hbuild ▸ hb, fun path => hisSome (hgrows path)⟩
  · obtain ⟨hbuild, hgrows⟩ := calls_grown hcall
    obtain ⟨hreadable, hok⟩ := hsmooth s hcall
    simp only [Readable, outcome_rootFiles_fst] at hreadable hok
    rw [hkept.1]
    rw [hkept.2] at hb
    have hends := program_ends hcached st.disk s
    rcases isSome_of_ends hends hreadable hok hb with ⟨hstored, hkeeps⟩ | hnew
    · exact .inl ⟨hbuild ▸ hstored, fun path hpath => hkeeps path (hisSome (hgrows path) hpath)⟩
    · exact .inr hnew

theorem isSome_of_smoothRun {p : Project σ} (hcached : p.noCache = false) {disk : Disk} {world : σ}
    {events : List (Event σ)} (hsmooth : SmoothRun p (start disk world) events) {b : Build}
    (hb : (run p (start disk world) events).session.build = some b) :
    ∀ path ∈ roots b, ((run p (start disk world) events).session.store.get? path).isSome =
      true := by
  induction events using List.reverseRecOn with
  | nil => simp [start] at hb
  | append_singleton events e ih =>
      rw [run_concat] at hb ⊢
      rcases isSome_of_smooth hcached (hsmooth events e [] rfl) hb with ⟨hstored, hkeeps⟩ | hnew
      · exact fun path hpath => hkeeps path (ih hsmooth.of_append hstored path hpath)
      · exact hnew

theorem not_absentSince {p : Project σ} (hcached : p.noCache = false) {disk : Disk} {world : σ}
    {events : List (Event σ)} (hsmooth : SmoothRun p (start disk world) events) {b : Build}
    {path : Text} (hpath : path ∈ roots b) :
    ¬ AbsentSince p (start disk world) events b path := by
  rintro ⟨before, after, rfl, hbuild, hget⟩
  have hsome := isSome_of_smoothRun hcached hsmooth.of_append hbuild path hpath
  simp [hget] at hsome

/-- The answer to a request that asks for the program says what the program of the disk says. -/
theorem said_of_agrees {p : Project σ} (hclock : Clocked p.tools) {disk : Disk}
    {request : Request} {s s₁ : Session σ} (hasked : asked p disk request s = some s₁)
    {program : Except Failure Program}
    (h : Agrees (outcome (p.program disk) s₁).1 program) :
    said (outcome (p.run disk request) s).1 =
      (program >>= verdict p disk request).map (saying p) := by
  obtain ⟨rest, hrun, -, hsaid⟩ := run_of_asked hasked
  rw [hrun, outcome_bind]
  rcases hout : outcome (p.program disk) s₁ with ⟨failure | b, s'⟩
  · rw [hout] at h
    cases program with
    | error failure' =>
        obtain rfl : failure = failure' := h
        rfl
    | ok program => exact absurd h id
  · rw [hout] at h
    cases program with
    | error failure' => exact absurd h id
    | ok program =>
        have halike : Alike b.program program := h
        rw [hsaid hclock, verdict_alike halike]
        rfl

theorem current_of_asked {p : Project σ} {disk : Disk} {request : Request} {s s₁ : Session σ}
    {paths : List Text} (hasked : asked p disk request s = some s₁)
    (hreadable : ∀ path ∈ paths, ∃ content, disk.text? path = some content)
    (h : ∀ path ∈ paths, ∀ snapshot, s.store.get? path = some snapshot →
      disk.text? path = some snapshot.content ∨
        ∃ files, refreshed p disk request = .ok files ∧ path ∈ files) :
    Current disk paths s₁ := by
  obtain ⟨files, hfiles, rfl⟩ := asked_eq hasked
  intro path hpath snapshot hget
  obtain ⟨content, htext⟩ := hreadable path hpath
  by_cases hmem : path ∈ files
  · have hknown := known_refreshAll htext hmem { s with world := (p.tools.tick s.world).2 }
    rw [known, hget] at hknown
    rw [htext, ← hknown]
    rfl
  · rw [get?_refreshAll_of_not_mem hmem] at hget
    rcases h path hpath snapshot hget with hsame | ⟨files', hfiles', hmem'⟩
    · exact hsame
    · obtain rfl := Except.ok.inj (hfiles.symm.trans hfiles')
      exact absurd hmem' hmem

theorem asked_isSome (p : Project σ) (disk : Disk) (request : Request) (s s' : Session σ) :
    (asked p disk request s).isSome = (asked p disk request s').isSome := by
  unfold asked
  cases refreshed p disk request with
  | error failure => rfl
  | ok paths => by_cases h : needsProgram request paths = true <;> simp [h]

/-- The snapshots of source files say what the disk says, or the request reads their files
again. -/
def Covered (p : Project σ) (st : State σ) (request : Request) : Prop :=
  ∀ paths, (outcome (p.rootFiles st.disk) st.session).1 = .ok paths →
    ∀ path ∈ paths, ∀ snapshot, st.session.store.get? path = some snapshot →
      st.disk.text? path = some snapshot.content ∨
        ∃ files, refreshed p st.disk request = .ok files ∧ path ∈ files

/-- If the request is answered by the program at hand, the search among the source files still
finds the sources that it was built from, apart from their texts. -/
def SameSources (p : Project σ) (st : State σ) (request : Request) : Prop :=
  ∀ s b paths, asked p st.disk request st.session = some s → s.build = some b →
    (outcome (p.program st.disk) s).1 = .ok b →
    (outcome (p.rootFiles st.disk) s).1 = .ok paths →
      ∃ found, (p.tools.discover st.disk paths false s.world).1 = .ok found ∧
        found.map (apart p.directory) = b.sources.map (apart p.directory)

theorem matches_of_smoothRun {p : Project σ} (hcached : p.noCache = false) {disk : Disk}
    {world : σ} {events : List (Event σ)} (hsmooth : SmoothRun p (start disk world) events)
    {request : Request} (hsources : SameSources p (run p (start disk world) events) request)
    {s : Session σ} (hasked : asked p (run p (start disk world) events).disk request
      (run p (start disk world) events).session = some s) {b : Build} {paths : List Text}
    (hcurrent : Current (run p (start disk world) events).disk paths s)
    (hstored : s.build = some b)
    (hprogram : (outcome (p.program (run p (start disk world) events).disk) s).1 = .ok b)
    (hroots : rootsAt p (run p (start disk world) events).disk s.world = .ok paths) :
    Matches p (run p (start disk world) events).disk paths b := by
  have hcall : calls p (run p (start disk world) events) (.query request) = some s := hasked
  have hout : outcome (p.program (run p (start disk world) events).disk) s =
      (.ok b, (outcome (p.program (run p (start disk world) events).disk) s).2) :=
    Prod.ext hprogram rfl
  obtain ⟨hget, hmem, -⟩ := reused_cases hcached hstored hout hroots
  refine ⟨made_run hcached disk world events ((calls_grown hcall).1.symm.trans hstored), ?_, ?_⟩
  · intro path hpath
    rcases absentSince_or_builtWith hcached disk world events hcall hstored hout hroots hpath with
      habsent | hwith
    · exact absurd habsent (not_absentSince hcached hsmooth ((hmem path).mp hpath))
    · rwa [known, hget, known_readWith hcurrent hpath] at hwith
  · obtain ⟨found, hfound, heq⟩ := hsources s b paths hasked hstored hprogram
      ((outcome_rootFiles_fst p _ s).trans hroots)
    exact ⟨found, s.world, by rw [sourcesAt, hfound], heq⟩

/-- After a run in which all source files could be read and no build failed, a request is
answered like in a new session, if the snapshots of source files say what the disk says or are
read again by the request, and a program that is given out again was built from the sources that
are found now. -/
theorem said_run_eq_fresh {p : Project σ} (hcached : p.noCache = false)
    (htools : Dependable p.tools) {disk : Disk} {world : σ} {events : List (Event σ)}
    (hsmooth : SmoothRun p (start disk world) events) {request : Request}
    (hreadable : ∀ s, calls p (run p (start disk world) events) (.query request) = some s →
      Readable p (run p (start disk world) events).disk s)
    (hcovered : Covered p (run p (start disk world) events) request)
    (hsources : SameSources p (run p (start disk world) events) request) (w : σ) :
    said (outcome (p.run (run p (start disk world) events).disk request)
        (run p (start disk world) events).session).1 =
      said (outcome (p.run (run p (start disk world) events).disk request) { world := w }).1 := by
  set st := run p (start disk world) events with hst
  have hfresh := asked_isSome p st.disk request st.session { world := w }
  cases hasked : asked p st.disk request st.session with
  | none =>
      have hasked' : asked p st.disk request { world := w } = none := by simpa [hasked] using hfresh
      rw [(run_of_not_asked hasked).2 htools.clock ⟨[], []⟩,
        (run_of_not_asked hasked').2 htools.clock ⟨[], []⟩]
  | some s =>
      obtain ⟨t, hasked'⟩ := Option.isSome_iff_exists.mp (hfresh.symm.trans (by simp [hasked]))
      have hworld := rootsAt_world htools st.disk
      have hread : ∀ w' paths, rootsAt p st.disk w' = .ok paths →
          ∀ path ∈ paths, ∃ content, st.disk.text? path = some content := by
        intro w' paths hroots
        refine hreadable s hasked paths ?_
        rw [outcome_rootFiles_fst, hworld s.world w', hroots]
      have hcurrent : ∀ paths, rootsAt p st.disk s.world = .ok paths →
          Current st.disk paths s := by
        intro paths hroots
        refine current_of_asked hasked (hread s.world paths hroots) (hcovered paths ?_)
        rw [outcome_rootFiles_fst, hworld st.session.world s.world, hroots]
      have hcurrent' : ∀ paths, rootsAt p st.disk t.world = .ok paths →
          Current st.disk paths t := by
        intro paths hroots
        exact current_of_asked hasked' (hread t.world paths hroots) (by simp [SnapshotStore.get?])
      -- Both sessions ask for the program with the texts of the disk, so both get its program.
      have hagrees : Agrees (outcome (p.program st.disk) s).1 (programOn p st.disk w) :=
        ends_agrees htools (program_ends hcached st.disk s) w (hread s.world) hcurrent
          fun b paths hstored hprogram hroots =>
            matches_of_smoothRun hcached hsmooth hsources hasked (hcurrent paths hroots) hstored
              hprogram hroots
      have hagrees' : Agrees (outcome (p.program st.disk) t).1 (programOn p st.disk w) := by
        refine ends_agrees htools (program_ends hcached st.disk t) w (hread t.world) hcurrent' ?_
        intro b paths hstored
        have hcall : calls p ⟨st.disk, { world := w }⟩ (.query request) = some t := hasked'
        have hnone : t.build = none := (calls_grown hcall).1
        simp [hnone] at hstored
      rw [said_of_agrees htools.clock hasked hagrees, said_of_agrees htools.clock hasked' hagrees']

/-- The collaborators of a rehearsal, with a clock that stands still. -/
def steady : Tools Rehearsal.World := { Rehearsal.tools {} {} with tick := fun w => (.whole 0, w) }

/-- A project at the root of the disk, in which some files and directories are to be checked. -/
def project (targets : List Text) : Project Rehearsal.World where
  config := { root := ['/'], compilerConfig := ['/', 'm'], settings := {} }
  options := { files := some targets }
  noCache := false
  collectMetrics := true
  tools := steady

theorem sourcesOf_file {disk : Disk} {path : Text} (h : disk.isFile path = true)
    (allowEmpty : Bool) :
    Rehearsal.sourcesOf disk allowEmpty path = .ok [Rehearsal.sourceAt path] := by
  have hdirectory : disk.isDirectory path = false := by
    unfold Disk.isFile at h
    unfold Disk.isDirectory
    cases hnode : disk.node? path with
    | none => simp [hnode] at h
    | some node => cases node <;> simp_all [Node.isFile, Node.isDirectory]
  simp [Rehearsal.sourcesOf, hdirectory, h]

theorem mapM_sourcesOf {disk : Disk} {paths : List Text}
    (h : ∀ path ∈ paths, disk.isFile path = true) (allowEmpty : Bool) :
    paths.mapM (Rehearsal.sourcesOf disk allowEmpty) =
      .ok (paths.map fun path => [Rehearsal.sourceAt path]) :=
  mapM_eq_ok fun path hpath => sourcesOf_file (h path hpath) allowEmpty

theorem dependable_steady : Dependable steady where
  discover _ _ _ _ _ := rfl
  again := by
    intro disk paths w found hisFile hfound source hsource path hpath
    have hall : (steady.discover disk paths false w).1 =
        .ok (paths.map fun path => [Rehearsal.sourceAt path]).flatten := by
      simp [steady, Rehearsal.tools, Rehearsal.discover, mapM_sourcesOf hisFile false, bind,
        Except.bind, pure, Except.pure]
    obtain rfl := Except.ok.inj (hall.symm.trans hfound)
    obtain ⟨_, hmem, hin⟩ := List.mem_flatten.mp hsource
    obtain ⟨original, horiginal, rfl⟩ := List.mem_map.mp hmem
    obtain rfl := List.mem_singleton.mp hin
    obtain rfl := Option.some.inj hpath
    exact horiginal
  build sources w w' := by
    simp only [steady, Rehearsal.tools, Rehearsal.build]
    cases sources.foldlM Rehearsal.readSource {} <;> rfl
  clock _ _ := ⟨0, rfl⟩

/-- A source file that has a message of the compiler for itself. -/
def marked : Node :=
  .file (Text.toBytes ['#', ':', ' ', '@', ':', '1', ':', '1', ':', ' ', 'e', 'r', 'r',
    'o', 'r', ':',
    ' ', 'x']) 0

/-- A project with one file, and the disk with it. -/
def alone : Project Rehearsal.World := project [['a', '.', 'p', 'y']]

def aloneDisk : Disk := ⟨[(['a', '.', 'p', 'y'], marked)]⟩

theorem readable_alone (s : Session Rehearsal.World) : Readable alone aloneDisk s := by
  have hroots : (outcome (alone.rootFiles aloneDisk) s).1 = .ok [['/', 'a', '.', 'p', 'y']] := rfl
  intro paths hpaths path hpath
  obtain rfl := Except.ok.inj (hroots.symm.trans hpaths)
  obtain rfl := List.mem_singleton.mp hpath
  exact ⟨_, rfl⟩

theorem smoothRun_alone : SmoothRun alone (start aloneDisk {}) [.query .whole] := by
  refine smoothRun_cons (fun s hcall => ⟨readable_alone s, fun paths _ => ?_⟩) (smoothRun_nil _ _)
  obtain rfl := Option.some.inj hcall
  exact ⟨_, rfl⟩

theorem covered_alone : Covered alone (run alone (start aloneDisk {}) [.query .whole]) .whole := by
  intro paths hpaths path hpath snapshot hget
  have hroots : (outcome (alone.rootFiles aloneDisk) { world := {} }).1 =
      .ok [['/', 'a', '.', 'p', 'y']] := rfl
  obtain rfl := Except.ok.inj (hroots.symm.trans hpaths)
  obtain rfl := List.mem_singleton.mp hpath
  obtain rfl := Option.some.inj hget
  exact .inl rfl

theorem sameSources_alone :
    SameSources alone (run alone (start aloneDisk {}) [.query .whole]) .whole := by
  intro s b paths hasked hstored _ hpaths
  have hroots : (outcome (alone.rootFiles aloneDisk) s).1 = .ok [['/', 'a', '.', 'p', 'y']] := rfl
  obtain rfl := Except.ok.inj (hroots.symm.trans hpaths)
  have hbuild : s.build = (run alone (start aloneDisk {}) [.query .whole]).session.build :=
    (calls_grown (p := alone) (e := .query .whole) hasked).1
  have hsources : (run alone (start aloneDisk {}) [.query .whole]).session.build.map
      (fun b => b.sources.map (apart alone.directory)) =
        some [Rehearsal.sourceAt ['/', 'a', '.', 'p', 'y']] := rfl
  rw [← hbuild, hstored] at hsources
  exact ⟨_, rfl, (Option.some.inj hsources).symm⟩

theorem said_run_eq_fresh_again :
    said (outcome (alone.run aloneDisk .whole)
        (run alone (start aloneDisk {}) [.query .whole]).session).1 =
      said (outcome (alone.run aloneDisk .whole) { world := {} }).1 :=
  said_run_eq_fresh (p := alone) rfl dependable_steady smoothRun_alone
    (fun s _ => readable_alone s) covered_alone sameSources_alone {}

def nested : Project Rehearsal.World := project [['d', '/', 's'], ['d']]

def nestedDisk : Disk :=
  ⟨[(['d'], .directory [(['s'], .directory [(['a', '.', 'p', 'y'], marked)])]),
    (['o'], .directory [(['a', '.', 'p', 'y'], marked)])]⟩

/-- The disk where the inner directory has become a link to another one with the same file. -/
def linkedDisk : Disk :=
  ⟨[(['d'], .directory [(['s'], .link ['.', '.', '/', 'o'])]),
    (['o'], .directory [(['a', '.', 'p', 'y'], marked)])]⟩

/-- The session that has seen the directory before it became a link. -/
def linked : State Rehearsal.World :=
  run nested (start nestedDisk {}) [.query .whole, .edit linkedDisk {}]

def inner : Text := ['/', 'd', '/', 's', '/', 'a', '.', 'p', 'y']

theorem rootsAt_nested (w : Rehearsal.World) :
    rootsAt nested nestedDisk w = .ok [inner, inner] ∧
      rootsAt nested linkedDisk w = .ok [inner] := by
  rw [rootsAt_world dependable_steady nestedDisk w {},
    rootsAt_world dependable_steady linkedDisk w {}]
  exact ⟨by decide +kernel, by decide +kernel⟩

theorem smooth_nested : Smooth nested (start nestedDisk {}) (.query .whole) := by
  intro s hcall
  constructor
  · intro paths hpaths path hpath
    rw [outcome_rootFiles_fst] at hpaths
    obtain rfl := Except.ok.inj ((rootsAt_nested s.world).1.symm.trans hpaths)
    obtain rfl : path = inner := by simpa using hpath
    exact Option.isSome_iff_exists.mp (by decide +kernel)
  · intro paths _
    obtain rfl := Option.some.inj hcall
    have hok : (outcome (nested.program nestedDisk) { world := {} }).1.toOption.isSome = true := by
      decide +kernel
    cases hprogram : (outcome (nested.program nestedDisk) { world := {} }).1 with
    | error failure => simp [hprogram, Except.toOption] at hok
    | ok b => exact ⟨b, hprogram⟩

/-- The file was found twice and is now found once; the source files and their texts are the same,
so the program at hand answers. -/
theorem said_run_ne_fresh :
    Dependable nested.tools ∧
      SmoothRun nested (start nestedDisk {}) [.query .whole, .edit linkedDisk {}] ∧
      (∀ s, calls nested linked (.query .whole) = some s → Readable nested linked.disk s) ∧
      Covered nested linked .whole ∧
      said (outcome (nested.run linked.disk .whole) linked.session).1 ≠
        said (outcome (nested.run linked.disk .whole) { world := {} }).1 := by
  refine ⟨dependable_steady, smoothRun_cons smooth_nested (smoothRun_cons ?_ (smoothRun_nil _ _)),
    ?_, ?_, ?_⟩
  · intro s hcall
    cases hcall
  · intro s _ paths hpaths path hpath
    rw [outcome_rootFiles_fst] at hpaths
    obtain rfl := Except.ok.inj ((rootsAt_nested s.world).2.symm.trans hpaths)
    obtain rfl := List.mem_singleton.mp hpath
    exact Option.isSome_iff_exists.mp (by decide +kernel)
  · intro paths hpaths path hpath snapshot hget
    rw [outcome_rootFiles_fst] at hpaths
    obtain rfl := Except.ok.inj ((rootsAt_nested linked.session.world).2.symm.trans hpaths)
    obtain rfl := List.mem_singleton.mp hpath
    have hknown : known linked.session.store inner = linked.disk.text? inner := by decide +kernel
    left
    rw [← hknown, known, hget, Option.map_some]
  · intro heq
    have hcount := congrArg (fun answer => answer.toOption.map (·.1.length)) heq
    revert hcount
    decide +kernel

end Recheck.Proofs.FreshAnswers
