import Recheck.Proofs.FreshAnswers
import Recheck.Proofs.Views

/-!
Files that are no source files. A session may read them again as often as it likes, from whatever
disks: asking for the program then comes to what it would have come to without that.
-/

namespace Recheck.Proofs.OtherFiles

open Recheck.Proofs.Activities
open Recheck.Proofs.Creations
open Recheck.Proofs.DiskPrograms
open Recheck.Proofs.Programs
open Recheck.Proofs.SessionRuns
open Recheck.Proofs.Snapshots
open Recheck.Proofs.Views

variable {σ : Type} {p : Project σ} {disk : Disk}

/-- A file that is read again from the disk of the moment. -/
structure Reading where
  disk : Disk
  path : Text
  force : Bool

def rereadAll (readings : List Reading) (s : Session σ) : Session σ :=
  readings.foldl (fun s r => s.refresh r.disk r.path r.force) s

theorem sameView_rereadAll {away : List Text} {readings : List Reading}
    (haway : ∀ r ∈ readings, r.path ∈ away) {s t : Session σ} (h : SameView away s t) :
    SameView away s (rereadAll readings t) := by
  induction readings generalizing t with
  | nil => exact h
  | cons r readings ih =>
      obtain ⟨hr, hrest⟩ := List.forall_mem_cons.mp haway
      apply ih hrest
      exact h.ofRefresh hr r.disk r.force

/-- Creating a program asks for the texts of source files only. -/
def AsksRoots (p : Project σ) (disk : Disk) (w : σ) : Prop :=
  ∀ paths, rootsAt p disk w = .ok paths → ∀ w₁ w₂ found,
    (rootsAt p disk w₁ >>= fun roots => sourcesAt p disk roots w₂) = .ok found →
      ∀ file ∈ files p.directory found, file ∈ paths

theorem asksRoots_of_dependable (htools : Dependable p.tools) {w : σ}
    (hreadable : ∀ paths, rootsAt p disk w = .ok paths →
      ∀ path ∈ paths, ∃ content, disk.text? path = some content) : AsksRoots p disk w := by
  intro paths hroots w₁ w₂ found hfound file hfile
  rw [rootsAt_world htools disk w₁ w, hroots] at hfound
  obtain ⟨source, hsource, heq⟩ := List.mem_filterMap.mp hfile
  exact fileOf_mem_roots htools hroots (hreadable paths hroots) hfound source hsource file heq

/-- Files that are no source files change nothing about the program. The program at hand is given
out, or something is handed to the build, as without them: the same source files, with the same
sources and texts. The answer is the same program or the same failure; and what the session then
knows differs in the snapshots of these files alone. -/
theorem program_rereadAll {s : Session σ} (hasks : AsksRoots p disk s.world)
    {readings : List Reading}
    (hothers : ∀ paths, rootsAt p disk s.world = .ok paths → ∀ r ∈ readings, r.path ∉ paths) :
    handed p disk (rereadAll readings s) = handed p disk s ∧
      (Recreates p disk (rereadAll readings s) ↔ Recreates p disk s) ∧
      (outcome (p.program disk) (rereadAll readings s)).1 = (outcome (p.program disk) s).1 ∧
      SameView (readings.map (·.path)) (outcome (p.program disk) s).2
        (outcome (p.program disk) (rereadAll readings s)).2 := by
  have hview : SameView (readings.map (·.path)) s (rereadAll readings s) :=
    sameView_rereadAll (fun r hr => List.mem_map_of_mem hr)
      ⟨fun _ _ => rfl, rfl, rfl, rfl⟩
  have haway : Unasked p disk (readings.map (·.path)) s.world := by
    intro paths hroots
    have hapart : ∀ path ∈ paths, path ∉ readings.map (·.path) := by
      intro path hpath hmem
      obtain ⟨r, hr, rfl⟩ := List.mem_map.mp hmem
      exact hothers paths hroots r hr hpath
    refine ⟨hapart, ?_⟩
    intro w w' found hfound file hfile
    exact hapart file (hasks paths hroots w w' found hfound file hfile)
  have hhanded := handed_of_sameView hview haway
  obtain ⟨hanswer, hafter⟩ := respects_program haway _ hview
  exact ⟨hhanded, by rw [recreates_iff, recreates_iff, hhanded], hanswer, hafter⟩

open FreshAnswers (project marked alone dependable_steady)

/-- A disk with the source file of a project, and with another file. -/
def besideDisk (other : Text) : Disk :=
  ⟨[(['a', '.', 'p', 'y'], marked), (['n'], .file (Text.toBytes other) 0)]⟩

/-- A session with the program of the source file at hand. -/
def stocked : Session Rehearsal.World :=
  (outcome (alone.program (besideDisk ['x'])) { world := {} }).2

/-- The other file is read before and after it has become another one, and once more by force. -/
def besides : List Reading :=
  [⟨besideDisk ['x'], ['/', 'n'], false⟩, ⟨besideDisk ['y'], ['/', 'n'], false⟩,
    ⟨besideDisk ['y'], ['/', 'n'], true⟩]

theorem rootsAt_beside (other : Text) (w : Rehearsal.World) :
    rootsAt alone (besideDisk other) w = .ok [['/', 'a', '.', 'p', 'y']] := rfl

theorem program_rereadAll_beside :
    stocked.build.isSome = true ∧
      (rereadAll besides stocked).store.version? ['/', 'n'] = some 2 ∧
      ¬ Recreates alone (besideDisk ['y']) (rereadAll besides stocked) ∧
      (outcome (alone.program (besideDisk ['y'])) (rereadAll besides stocked)).1 =
        (outcome (alone.program (besideDisk ['y'])) stocked).1 := by
  have hasks : AsksRoots alone (besideDisk ['y']) stocked.world := by
    apply asksRoots_of_dependable dependable_steady
    intro paths hroots path hpath
    obtain rfl := Except.ok.inj ((rootsAt_beside ['y'] _).symm.trans hroots)
    obtain rfl := List.mem_singleton.mp hpath
    exact Option.isSome_iff_exists.mp (by decide +kernel)
  have hothers : ∀ paths, rootsAt alone (besideDisk ['y']) stocked.world = .ok paths →
      ∀ r ∈ besides, r.path ∉ paths := by
    intro paths hroots
    obtain rfl := Except.ok.inj ((rootsAt_beside ['y'] _).symm.trans hroots)
    simp [besides]
  have hreused : (handed alone (besideDisk ['y']) stocked).isSome = false := by decide +kernel
  obtain ⟨-, hrecreates, hanswer, -⟩ := program_rereadAll (s := stocked) hasks hothers
  refine ⟨by decide +kernel, by decide +kernel, ?_, hanswer⟩
  rw [hrecreates, recreates_iff, hreused]
  exact Bool.false_ne_true

end Recheck.Proofs.OtherFiles
