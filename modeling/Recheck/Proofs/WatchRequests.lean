import Recheck.Proofs.ResolvedPaths
import Recheck.Proofs.RootChecks
import Recheck.Proofs.WatchSteps

/-!
The check that a watch session runs for its pending files. A set of files is checked without a
word about those that do not exist or are not in the program. One file is checked by itself if it
is a source file; such a file is in every program, and if it is asked for under an absolute path
that is not too long it exists under the name under which it is checked.
-/

namespace Recheck.Proofs.WatchRequests

open Recheck.Proofs.Activities
open Recheck.Proofs.DiskPrograms
open Recheck.Proofs.Faults
open Recheck.Proofs.Polls (run_bind)
open Recheck.Proofs.Programs
open Recheck.Proofs.Queries
open Recheck.Proofs.ResolvedPaths
open Recheck.Proofs.RootChecks
open Recheck.Proofs.SessionRuns
open Recheck.Proofs.WatchSteps

variable {σ : Type} {p : Project σ} {disk : Disk} {w w' : Watch σ}

/-- A run that ended with a fault of the kind. -/
def Fails (kind : FaultKind) (answer : Reactor.Answer) : Prop :=
  ∃ cause, answer = .raised (.fault cause) ∧ cause.kind = kind

/-- The answer to a request that a watch session has chosen. -/
def answerTo (p : Project σ) (disk : Disk) (request : Request) (w : Watch σ) : Reactor.Answer :=
  (((Watch.collaborators p disk).run request).run w).1

/-- How a watch session fares with its pending files: it chooses a request for them and has it
answered, on the same disk. -/
def answerFor (p : Project σ) (disk : Disk) (pending : List Text) (w : Watch σ) : Reactor.Answer :=
  match (Watch.isRoot p disk pending).run w with
  | (.error failure, _) => .raised failure
  | (.ok isRoot, w) => answerTo p disk (Reactor.requestFor pending isRoot) w

/-- The session has the snapshots and the program of a session after some queries and edits. -/
def Reached (p : Project σ) (s : Session σ) : Prop :=
  ∃ disk world events, Kept (run p (start disk world) events).session s

/-- The session in which a watch session performs an activity. -/
def quiet (w : Watch σ) : Session σ := { w.session with notes := [] }

/-- One file is pending, and it is a source file that exists. -/
def Single (p : Project σ) (disk : Disk) (pending : List Text) (w : Watch σ) (path : Text) : Prop :=
  pending = [path] ∧ disk.isFile (Path.join p.directory path) = true ∧
    (outcome (p.isRootFile disk path) (quiet w)).1 = .ok true

theorem answerTo_eq (p : Project σ) (disk : Disk) (request : Request) (w : Watch σ) :
    answerTo p disk request w =
      match (outcome (p.run disk request) (quiet w)).1 with
      | .ok report => .result report
      | .error failure => .raised failure := by
  have hlogged : (StateT.run (m := Id) (modify fun w : Watch σ =>
      w.log ("Watch cycle: ".toList ++ request.text)) w).2 =
        w.log ("Watch cycle: ".toList ++ request.text) := rfl
  have hperformed : ((Watch.perform (p.run disk request)).run
      (w.log ("Watch cycle: ".toList ++ request.text))).1 =
        (outcome (p.run disk request) (quiet w)).1 := rfl
  simp only [answerTo, Watch.collaborators]
  rw [run_bind, run_bind, hlogged]
  generalize (Watch.perform (p.run disk request)).run
    (w.log ("Watch cycle: ".toList ++ request.text)) = performed at hperformed ⊢
  rcases performed with ⟨failure | report, w'⟩
  · rw [← hperformed]
    dsimp only
    split <;> rfl
  · rw [← hperformed]
    rfl

theorem fails_iff {kind : FaultKind} {request : Request} :
    Fails kind (answerTo p disk request w) ↔
      Raises kind (outcome (p.run disk request) (quiet w)).1 := by
  rw [answerTo_eq]
  cases (outcome (p.run disk request) (quiet w)).1 with
  | ok report => exact iff_of_false (by simp [Fails]) (not_raises_ok report)
  | error failure => simp [Fails, Raises]

theorem isRootFile_eq_ok {path : Text} {s : Session σ}
    (h : (outcome (p.isRootFile disk path) s).1 = .ok true) : ∃ target paths,
      p.resolve disk path = .ok target ∧ rootsAt p disk s.world = .ok paths ∧ target ∈ paths := by
  unfold Project.isRootFile at h
  rw [outcome_bind, outcome_lift] at h
  cases hresolve : p.resolve disk path with
  | error failure => simp [hresolve] at h
  | ok target =>
      obtain ⟨world, hroots⟩ := outcome_rootFiles p disk s
      simp only [hresolve, outcome_bind, hroots] at h
      cases hpaths : rootsAt p disk s.world with
      | error failure => simp [hpaths] at h
      | ok paths =>
          refine ⟨target, paths, rfl, rfl, ?_⟩
          simpa [hpaths] using h

theorem contains_of_isRootFile (htools : Reliable p.tools) {path target : Text} {s s₁ : Session σ}
    {b : Build} (hreached : Reached p s) (hbuild : s₁.build = s.build)
    (hroot : (outcome (p.isRootFile disk path) s).1 = .ok true)
    (hresolve : p.resolve disk path = .ok target)
    (hprogram : (outcome (p.program disk) s₁).1 = .ok b) :
    b.program.contains p.directory target = true := by
  obtain ⟨disk₀, world, events, -, hkept⟩ := hreached
  obtain ⟨target', paths, hresolve', hpaths, hmem⟩ := isRootFile_eq_ok hroot
  obtain rfl := Except.ok.inj (hresolve.symm.trans hresolve')
  have hstored : ∀ b, s₁.build = some b → HoldsRoots b := by
    intro b hb
    exact holdsRoots_run htools disk₀ world events (hkept ▸ hbuild ▸ hb)
  rcases hout : outcome (p.program disk) s₁ with ⟨answer, s₂⟩
  obtain rfl : answer = .ok b := by rw [← hprogram, hout]
  have hroots := (rootsAt_eq htools disk s₁.world s.world).trans hpaths
  exact contains_of_mem (mem_files_of_program htools hstored hout hroots hmem)
    (clean_of_mem_roots hpaths hmem)

theorem isRoot_cases (p : Project σ) (disk : Disk) (pending : List Text) (w : Watch σ) :
    Kept w.session ((Watch.isRoot p disk pending).run w).2.session ∧
      ((∃ path, pending = [path] ∧ disk.isFile (Path.join p.directory path) = true ∧
          ((Watch.isRoot p disk pending).run w).1 =
            (outcome (p.isRootFile disk path) (quiet w)).1) ∨
        (¬ ∃ path, Single p disk pending w path) ∧
          ((Watch.isRoot p disk pending).run w).1 = .ok false) := by
  unfold Watch.isRoot
  split
  · next path =>
      split
      · next hfile => exact ⟨keeps_isRootFile p disk path (quiet w), .inl ⟨path, rfl, hfile, rfl⟩⟩
      · next hfile =>
          refine ⟨⟨rfl, rfl⟩, .inr ⟨?_, rfl⟩⟩
          rintro ⟨path', hpending, hfile', -⟩
          obtain rfl := List.singleton_inj.mp hpending
          exact hfile hfile'
  · next hmany =>
      refine ⟨⟨rfl, rfl⟩, .inr ⟨?_, rfl⟩⟩
      rintro ⟨path, hpending, -⟩
      exact hmany path hpending

/-- A file that is pending alone, exists and is a source file is checked by itself, and else the
pending files are checked as a set. -/
theorem answerFor_cases (p : Project σ) (disk : Disk) (pending : List Text) (w : Watch σ) :
    (∃ path failure, (outcome (p.isRootFile disk path) (quiet w)).1 = .error failure ∧
        (¬ ∃ path, Single p disk pending w path) ∧ answerFor p disk pending w = .raised failure) ∨
      (∃ path w', Single p disk pending w path ∧ Kept w.session w'.session ∧
        answerFor p disk pending w = answerTo p disk (.single path) w') ∨
      (¬ ∃ path, Single p disk pending w path) ∧
        ∃ w', answerFor p disk pending w = answerTo p disk (.changed pending) w' := by
  obtain ⟨hkept, hasked⟩ := isRoot_cases p disk pending w
  unfold answerFor
  rcases hrun : (Watch.isRoot p disk pending).run w with ⟨answer, w'⟩
  rw [hrun] at hkept hasked
  rcases hasked with ⟨path, rfl, hfile, hanswer⟩ | ⟨hnone, hanswer⟩
  · dsimp only at hanswer
    have hother : answer ≠ .ok true → ¬ ∃ path', Single p disk [path] w path' := by
      rintro hne ⟨path', hpending, -, hroot⟩
      obtain rfl := List.singleton_inj.mp hpending
      exact hne (hanswer.trans hroot)
    cases answer with
    | error failure => exact .inl ⟨path, failure, hanswer.symm, hother (by simp), rfl⟩
    | ok isRoot =>
        cases isRoot with
        | true => exact .inr (.inl ⟨path, w', ⟨rfl, hfile, hanswer.symm⟩, hkept, rfl⟩)
        | false => exact .inr (.inr ⟨hother (by simp), w', rfl⟩)
  · obtain rfl : answer = .ok false := hanswer
    refine .inr (.inr ⟨hnone, w', ?_⟩)
    dsimp only
    rw [Reactor.requestFor]
    simp

theorem not_outOfScope (htools : Reliable p.tools) (hreached : Reached p w.session)
    (pending : List Text) : ¬ Fails .outOfScope (answerFor p disk pending w) := by
  rcases answerFor_cases p disk pending w with ⟨path, failure, hroot, -, hanswer⟩ |
    ⟨path, w', ⟨-, -, hpath⟩, hkept, hanswer⟩ | ⟨-, w', hanswer⟩
  · have hspared : ¬ Raises .outOfScope (outcome (p.isRootFile disk path) (quiet w)).1 :=
      not_raises_isRootFile (by decide) p disk path (quiet w)
    rw [hanswer]
    rw [hroot] at hspared
    rintro ⟨cause, hcause, hkind⟩
    exact hspared ⟨cause, congrArg _ (Reactor.Answer.raised.inj hcause), hkind⟩
  · rw [hanswer, fails_iff]
    intro houtside
    obtain ⟨target, hresolve, hmissed⟩ :=
      (raises_checkFile (by decide) htools.buildsSpare).mp houtside
    split at hmissed
    · obtain ⟨-, b, hprogram, habsent⟩ := hmissed
      have hbuild := (refreshAll_build disk [target] { quiet w' with
        world := (p.tools.tick (quiet w').world).2 }).trans hkept.2
      have hpresent := contains_of_isRootFile htools (s := quiet w) hreached hbuild hpath hresolve
        hprogram
      rw [hpresent] at habsent
      cases habsent
    · cases hmissed
  · rw [hanswer, fails_iff]
    exact not_raises_checkPaths (by decide) htools.buildsSpare disk pending _

theorem sourceNotFound_iff (hspare : BuildsSpare .sourceNotFound p.tools) (pending : List Text) :
    Fails .sourceNotFound (answerFor p disk pending w) ↔ ∃ path target,
      Single p disk pending w path ∧ p.resolve disk path = .ok target ∧
        disk.isFile target = false := by
  rcases answerFor_cases p disk pending w with ⟨path, failure, hroot, hother, hanswer⟩ |
    ⟨path, w', hsingle, -, hanswer⟩ | ⟨hother, w', hanswer⟩
  · have hspared : ¬ Raises .sourceNotFound (outcome (p.isRootFile disk path) (quiet w)).1 :=
      not_raises_isRootFile (by decide) p disk path (quiet w)
    rw [hroot] at hspared
    rw [hanswer]
    refine iff_of_false ?_ fun ⟨path, _, hsingle, _⟩ => hother ⟨path, hsingle⟩
    rintro ⟨cause, hcause, hkind⟩
    exact hspared ⟨cause, congrArg _ (Reactor.Answer.raised.inj hcause), hkind⟩
  · rw [hanswer, fails_iff]
    refine (raises_checkFile (by decide) hspare).trans ?_
    constructor
    · rintro ⟨target, hresolve, hmissed⟩
      refine ⟨path, target, hsingle, hresolve, ?_⟩
      by_contra hfile
      rw [if_pos (by simpa using hfile)] at hmissed
      cases hmissed.1
    · rintro ⟨path', target, ⟨hpending, -⟩, hresolve, hfile⟩
      obtain rfl := List.singleton_inj.mp (hsingle.1.symm.trans hpending)
      refine ⟨target, hresolve, ?_⟩
      rw [if_neg (by simp [hfile])]
  · rw [hanswer, fails_iff]
    refine iff_of_false (not_raises_checkPaths (by decide) hspare disk pending _) ?_
    rintro ⟨path, -, hsingle, -⟩
    exact hother ⟨path, hsingle⟩

/-- The check for the pending files never ends out of scope, as every source file is in the
program that is given out. It misses a file where one source file is pending that is no file under
the name without links, and so never where an absolute path is pending that is not too long. -/
theorem fails_answerFor (htools : Reliable p.tools) (hspare : BuildsSpare .sourceNotFound p.tools)
    (hreached : Reached p w.session) (disk : Disk) (pending : List Text) :
    ¬ Fails .outOfScope (answerFor p disk pending w) ∧
      (Fails .sourceNotFound (answerFor p disk pending w) ↔ ∃ path target,
        Single p disk pending w path ∧ p.resolve disk path = .ok target ∧
          disk.isFile target = false) ∧
      (∀ path, pending = [path] → Path.isAbsolute path = true →
        (∀ target, p.resolve disk path = .ok target →
          Text.byteCount target ≤ Disk.maxPathBytes) →
        ¬ Fails .sourceNotFound (answerFor p disk pending w)) ∧
      ∀ path target s b, (outcome (p.isRootFile disk path) (quiet w)).1 = .ok true →
        p.resolve disk path = .ok target → s.build = w.session.build →
        (outcome (p.program disk) s).1 = .ok b → b.program.contains p.directory target = true := by
  refine ⟨not_outOfScope htools hreached pending, sourceNotFound_iff hspare pending, ?_, ?_⟩
  · rintro path rfl habsolute hshort hfails
    obtain ⟨path', target, ⟨hpending, hfile, -⟩, hresolve, hmissing⟩ :=
      (sourceNotFound_iff hspare _).mp hfails
    obtain rfl := List.singleton_inj.mp hpending
    rw [Paths.join_of_isAbsolute habsolute] at hfile
    rw [isFile_resolve habsolute hfile hresolve (hshort target hresolve)] at hmissing
    cases hmissing
  · intro path target s b hpath hresolve hbuild hprogram
    exact contains_of_isRootFile htools (s := quiet w) hreached hbuild hpath hresolve hprogram

theorem fails_answerFor_edited :
    Single pair edited.disk [aFile] { session := edited.session } aFile ∧
      ¬ Fails .outOfScope (answerFor pair edited.disk [aFile] { session := edited.session }) ∧
      ¬ Fails .sourceNotFound
        (answerFor pair edited.disk [aFile] { session := edited.session }) := by
  have hresolve : pair.resolve edited.disk aFile = .ok aFile := by decide +kernel
  have hreached : Reached pair edited.session := ⟨_, _, _, rfl, rfl⟩
  obtain ⟨hscope, -, hmissing, -⟩ := fails_answerFor reliable_steady
    (buildsSpare_steady .sourceNotFound) (w := { session := edited.session }) hreached edited.disk
    [aFile]
  refine ⟨⟨rfl, by decide +kernel, by decide +kernel⟩, hscope,
    hmissing aFile rfl rfl fun target htarget => ?_⟩
  obtain rfl := Except.ok.inj (hresolve.symm.trans htarget)
  decide +kernel

/-- A project below the root of the disk that names its one file through a link. -/
def below : Project Rehearsal.World :=
  { FreshAnswers.project [['k', '/', '.', '.', '/', 'p', '/', 'a', '.', 'p', 'y']] with
    config := { root := ['/', 'p'], compilerConfig := ['/', 'p', '/', 'm'], settings := {} } }

def belowDisk : Disk :=
  ⟨[(['e'], .directory []), (['p'], .directory [(['a', '.', 'p', 'y'], .file (Text.toBytes []) 0),
    (['k'], .link ['.', '.', '/', 'e'])])]⟩

/-- The pending file exists where the session was started, and is looked for below the project. -/
theorem fails_relative :
    Reached below ({ world := {} } : Session Rehearsal.World) ∧
      Fails .sourceNotFound (answerFor below belowDisk [['p', '/', 'a', '.', 'p', 'y']]
        { session := { world := {} } }) := by
  refine ⟨⟨belowDisk, {}, [], rfl, rfl⟩, (sourceNotFound_iff (buildsSpare_steady _) _).mpr
    ⟨_, ['/', 'p', '/', 'p', '/', 'a', '.', 'p', 'y'], ⟨rfl, ?_, ?_⟩, ?_, ?_⟩⟩
  all_goals decide +kernel

end Recheck.Proofs.WatchRequests
