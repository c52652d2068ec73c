import Recheck.Proofs.Creations

/-!
Sessions that look the same. The order in which a session came to its snapshots, the entries that
it has left in its journal, and snapshots of files that are no sources change nothing about the
program that it gives.
-/

namespace Recheck.Proofs.Views

open Recheck.Proofs.Activities
open Recheck.Proofs.Creations
open Recheck.Proofs.Programs
open Recheck.Proofs.Queries
open Recheck.Proofs.Snapshots
open Recheck.SnapshotStore

variable {σ : Type} {away : List Text} {directory : Text}

/-- Two sessions with the same snapshots in some order, apart from those of some files, with the
same program, the same world and the same messages to the observer. -/
structure SameView (away : List Text) (s t : Session σ) : Prop where
  store : ∀ q, q ∉ away → t.store.get? q = s.store.get? q
  build : t.build = s.build
  world : t.world = s.world
  statuses : statuses t = statuses s

theorem SameView.versionsOf {s t : Session σ} (h : SameView away s t) {paths : List Text}
    (hpaths : ∀ path ∈ paths, path ∉ away) : t.versionsOf paths = s.versionsOf paths := by
  refine List.map_congr_left fun path hpath => ?_
  have hget := h.store path (hpaths path (List.mem_eraseDups.mp hpath))
  simp only [Session.versionOf, SnapshotStore.version?, hget]

theorem SameView.current? {s t : Session σ} (h : SameView away s t)
    (versions : List (Text × Nat)) :
    Project.current? versions t = Project.current? versions s := by
  rw [Project.current?, h.build, Project.current?]

theorem SameView.ofWorld {s t : Session σ} (h : SameView away s t) (w : σ) :
    SameView away { s with world := w } { t with world := w } :=
  ⟨h.store, h.build, rfl, h.statuses⟩

theorem SameView.log {s t : Session σ} (h : SameView away s t) (part part' : Part)
    (message message' : Text) : SameView away (s.log part message) (t.log part' message') :=
  ⟨h.store, h.build, h.world, h.statuses⟩

theorem SameView.announce {s t : Session σ} (h : SameView away s t) (message : Text) :
    SameView away (s.announce message) (t.announce message) :=
  ⟨h.store, h.build, h.world, congrArg (message :: ·) h.statuses⟩

theorem SameView.ofRefresh {path : Text} (hpath : path ∈ away) (disk : Disk) (force : Bool)
    {s t : Session σ} (h : SameView away s t) : SameView away s (t.refresh disk path force) where
  store q hq := by
    rw [get?_refresh_of_ne (ne_of_mem_of_not_mem hpath hq).symm, h.store q hq]
  build := by rw [refresh_build, h.build]
  world := by rw [refresh_world, h.world]
  statuses := by rw [statuses_refresh, h.statuses]

theorem SameView.refresh {s t : Session σ} (h : SameView away s t) (disk : Disk) (path : Text)
    (force : Bool) : SameView away (s.refresh disk path force) (t.refresh disk path force) := by
  unfold Session.refresh
  cases disk.text? path with
  | none => exact h.log _ _ _ _
  | some content =>
      refine ⟨fun q hq => ?_, h.build, h.world, h.statuses⟩
      by_cases hpath : q = path
      · subst hpath
        simp only [get?_update, h.store q hq]
      · simp only [get?_update, hpath, if_false, h.store q hq]

theorem SameView.ensureRead {s t : Session σ} (h : SameView away s t) (disk : Disk)
    {path : Text} (hpath : path ∉ away) :
    SameView away (s.ensureRead disk path) (t.ensureRead disk path) := by
  unfold Session.ensureRead SnapshotStore.contains
  rw [h.store path hpath]
  split
  · exact h
  · exact h.refresh disk path false

theorem SameView.readAll {s t : Session σ} (h : SameView away s t) (disk : Disk) (again : Bool)
    {paths : List Text} (hpaths : ∀ path ∈ paths, path ∉ away) :
    SameView away (s.readAll disk again paths) (t.readAll disk again paths) := by
  induction paths generalizing s t with
  | nil => exact h
  | cons path paths ih =>
      obtain ⟨hpath, hrest⟩ := List.forall_mem_cons.mp hpaths
      refine ih ?_ hrest
      split
      · exact h.refresh disk path true
      · exact h.ensureRead disk hpath

theorem prune_world (disk : Disk) (roots : List Text) (s : Session σ) :
    (s.prune disk roots).world = s.world := by
  simp only [Session.prune]
  split <;> rfl

theorem statuses_prune (disk : Disk) (roots : List Text) (s : Session σ) :
    statuses (s.prune disk roots) = statuses s := by
  simp only [Session.prune]
  split <;> rfl

theorem SameView.prune {s t : Session σ} (h : SameView away s t) (disk : Disk)
    (roots : List Text) : SameView away (s.prune disk roots) (t.prune disk roots) where
  store q hq := by rw [get?_session_prune, get?_session_prune, h.store q hq]
  build := by rw [prune_build, prune_build, h.build]
  world := by rw [prune_world, prune_world, h.world]
  statuses := by rw [statuses_prune, statuses_prune, h.statuses]

theorem SameView.preparing {s t : Session σ} (h : SameView away s t) (disk : Disk)
    (roots : List Text) : SameView away (preparing disk roots s) (preparing disk roots t) :=
  (h.prune disk roots).announce _

theorem SameView.withTexts {s t : Session σ} (h : SameView away s t) (disk : Disk)
    {sources : List Source} (hfiles : ∀ file ∈ files directory sources, file ∉ away) :
    (Session.withTexts directory disk sources t).1 =
        (Session.withTexts directory disk sources s).1 ∧
      SameView away (Session.withTexts directory disk sources s).2
        (Session.withTexts directory disk sources t).2 := by
  induction sources generalizing s t with
  | nil => exact ⟨rfl, h⟩
  | cons source sources ih =>
      cases hfile : fileOf directory source with
      | none =>
          obtain ⟨hsources, hview⟩ := ih h (by simpa [files, hfile] using hfiles)
          rw [withTexts_cons_of_none hfile, withTexts_cons_of_none hfile, hsources]
          exact ⟨rfl, hview⟩
      | some file =>
          obtain ⟨haway, hrest⟩ : file ∉ away ∧ ∀ file ∈ files directory sources, file ∉ away := by
            simpa [files, hfile] using hfiles
          have hread := h.ensureRead disk haway
          obtain ⟨hsources, hview⟩ := ih hread hrest
          rw [withTexts_cons_of_some hfile, withTexts_cons_of_some hfile, hsources, known,
            hread.store file haway]
          exact ⟨rfl, hview⟩

/-- From a session on, an activity comes to the same in every session that looks the same, and
they look the same after. -/
def Respects {α : Type} (away : List Text) (x : Activity σ α) (s : Session σ) : Prop :=
  ∀ t, SameView away s t →
    (outcome x t).1 = (outcome x s).1 ∧ SameView away (outcome x s).2 (outcome x t).2

theorem respects_pure {α : Type} (a : α) (s : Session σ) :
    Respects away (pure a : Activity σ α) s :=
  fun _ h => ⟨rfl, h⟩

theorem respects_throw {α : Type} (failure : Failure) (s : Session σ) :
    Respects away (throw failure : Activity σ α) s :=
  fun _ h => ⟨rfl, h⟩

theorem respects_lift {α : Type} (x : Except Failure α) (s : Session σ) :
    Respects away (liftM x : Activity σ α) s := by
  intro t h
  rw [outcome_lift, outcome_lift]
  exact ⟨rfl, h⟩

theorem respects_ask {α : Type} (question : σ → α × σ) (s : Session σ) :
    Respects away (Session.ask question) s := by
  intro t h
  rw [outcome_ask, outcome_ask, h.world]
  exact ⟨rfl, h.ofWorld _⟩

theorem respects_modify {f : Session σ → Session σ}
    (hf : ∀ {s t}, SameView away s t → SameView away (f s) (f t)) (s : Session σ) :
    Respects away (modify f : Activity σ PUnit) s :=
  fun _ h => ⟨rfl, hf h⟩

theorem Respects.bind {α β : Type} {x : Activity σ α} {f : α → Activity σ β} {s : Session σ}
    (hx : Respects away x s)
    (hf : ∀ a s', outcome x s = (.ok a, s') → Respects away (f a) s') :
    Respects away (x >>= f) s := by
  intro t h
  obtain ⟨hanswer, hview⟩ := hx t h
  rw [outcome_bind, outcome_bind]
  rcases houts : outcome x s with ⟨failure | a, s'⟩ <;>
    rcases houtt : outcome x t with ⟨failure' | a', t'⟩ <;>
    simp only [houts, houtt] at hanswer hview
  · obtain rfl := Except.error.inj hanswer
    exact ⟨rfl, hview⟩
  · cases hanswer
  · cases hanswer
  · obtain rfl := Except.ok.inj hanswer
    exact hf a' s' houts t' hview

theorem respects_rootFiles (p : Project σ) (disk : Disk) (s : Session σ) :
    Respects away (p.rootFiles disk) s := by
  unfold Project.rootFiles
  refine (respects_ask _ s).bind fun found s' _ => ?_
  cases found with
  | error reason => exact respects_throw _ s'
  | ok sources => exact respects_pure _ s'

/-- No build on a disk comes upon some files. -/
def Spares (p : Project σ) (disk : Disk) (away : List Text) : Prop :=
  ∀ w w' found, (rootsAt p disk w >>= fun roots => sourcesAt p disk roots w') = .ok found →
    ∀ file ∈ files p.directory found, file ∉ away

theorem respects_collectSources {p : Project σ} {disk : Disk} (hspares : Spares p disk away)
    (s : Session σ) : Respects away (collectSources p disk) s := by
  unfold collectSources
  refine (respects_rootFiles p disk s).bind fun roots s₁ hroots => ?_
  refine (respects_ask _ s₁).bind fun found s₂ hfound => ?_
  cases found with
  | error reason => exact respects_throw _ s₂
  | ok found =>
      have hfiles : ∀ file ∈ files p.directory found, file ∉ away := by
        have hat : rootsAt p disk s.world = .ok roots := by
          rw [← outcome_rootFiles_fst, hroots]
        have hdiscover : (p.tools.discover disk roots false s₁.world).1 = .ok found :=
          Except.ok.inj (congrArg Prod.fst hfound)
        apply hspares s.world s₁.world found
        simp [hat, sourcesAt, hdiscover, bind, Except.bind]
      have hread : Respects away
          (modifyGet (Session.withTexts p.directory disk found) : Activity σ (List Source)) s₂ := by
        intro t h
        obtain ⟨hsources, hview⟩ := h.withTexts disk hfiles
        rw [outcome_modifyGet, outcome_modifyGet, hsources]
        exact ⟨rfl, hview⟩
      exact hread.bind fun sources s₃ _ => respects_pure _ s₃

theorem respects_buildSources (p : Project σ) (collected : List Text × List Source)
    (s : Session σ) : Respects away (buildSources p collected) s := by
  unfold buildSources
  refine (respects_ask _ s).bind fun built s₁ _ => ?_
  cases built with
  | failed failure => exact respects_throw _ s₁
  | blocked lines module =>
      exact (respects_modify (fun h => h.log _ _ _ _) s₁).bind fun _ s₂ _ =>
        (respects_lift _ s₂).bind fun program s₃ _ => respects_pure _ s₃
  | finished lines loaded =>
      exact (respects_lift _ s₁).bind fun program s₂ _ => respects_pure _ s₂

theorem respects_createProgram {p : Project σ} {disk : Disk} (hspares : Spares p disk away)
    (s : Session σ) : Respects away (p.createProgram disk) s := by
  intro t h
  rw [outcome_createProgram, outcome_createProgram]
  exact (respects_collectSources hspares s).bind
    (fun collected s₁ _ => respects_buildSources p collected s₁) t h

theorem respects_keeping (paths : List Text) (read : Session σ) (made : Program × List Source)
    (s : Session σ) : Respects away (keeping paths read made) s := by
  unfold keeping
  refine (respects_modify ?_ s).bind fun _ s₁ _ => ?_
  · exact fun h => ⟨h.store, rfl, h.world, h.statuses⟩
  · exact (respects_modify (fun h => h.announce _) s₁).bind fun _ s₂ _ => respects_pure _ s₂

theorem keeping_of_sameView {paths : List Text} (hpaths : ∀ path ∈ paths, path ∉ away)
    {read read' : Session σ} (h : SameView away read read') :
    keeping paths read' = keeping paths read := by
  funext made
  simp only [keeping, h.versionsOf hpaths, h.build]

/-- Asking for the program in a world does not come upon some files: they are neither source files
nor among the sources of a build. -/
def Unasked (p : Project σ) (disk : Disk) (away : List Text) (w : σ) : Prop :=
  ∀ paths, rootsAt p disk w = .ok paths → (∀ path ∈ paths, path ∉ away) ∧ Spares p disk away

theorem unasked_nil (p : Project σ) (disk : Disk) (w : σ) : Unasked p disk [] w :=
  fun _ _ => ⟨fun _ _ => List.not_mem_nil, fun _ _ _ _ _ _ => List.not_mem_nil⟩

theorem SameView.rootFiles {p : Project σ} {disk : Disk} {s t : Session σ}
    (h : SameView away s t) (haway : Unasked p disk away s.world) :
    (∃ failure s' t', outcome (p.rootFiles disk) s = (.error failure, s') ∧
      outcome (p.rootFiles disk) t = (.error failure, t') ∧ SameView away s' t') ∨
    ∃ paths s' t', outcome (p.rootFiles disk) s = (.ok paths, s') ∧
      outcome (p.rootFiles disk) t = (.ok paths, t') ∧ (∀ path ∈ paths, path ∉ away) ∧
      Spares p disk away ∧
      SameView away (s'.readAll disk p.noCache paths) (t'.readAll disk p.noCache paths) := by
  obtain ⟨hanswer, hview⟩ := respects_rootFiles p disk s t h
  rcases hs : outcome (p.rootFiles disk) s with ⟨failure | paths, s'⟩
  all_goals rcases ht : outcome (p.rootFiles disk) t with ⟨answer, t'⟩
  all_goals rw [hs, ht] at hanswer hview
  all_goals subst hanswer
  · exact .inl ⟨failure, s', t', rfl, rfl, hview⟩
  · have hroots : rootsAt p disk s.world = .ok paths := by rw [← outcome_rootFiles_fst, hs]
    obtain ⟨hpaths, hspares⟩ := haway paths hroots
    exact .inr ⟨paths, s', t', rfl, rfl, hpaths, hspares, hview.readAll disk p.noCache hpaths⟩

theorem handed_of_sameView {p : Project σ} {disk : Disk} {s t : Session σ}
    (h : SameView away s t) (haway : Unasked p disk away s.world) :
    handed p disk t = handed p disk s := by
  rcases h.rootFiles haway with ⟨failure, s', t', hs, ht, -⟩ |
    ⟨paths, s', t', hs, ht, hpaths, hspares, hread⟩
  · rw [handed_of_rootless hs, handed_of_rootless ht]
  · rw [handed_of_roots hs rfl, handed_of_roots ht rfl, hread.versionsOf hpaths, hread.current?]
    cases Project.current? _ _ with
    | some b => rfl
    | none =>
        exact congrArg some
          (respects_collectSources hspares _ _ (hread.preparing disk paths)).1

/-- Asking for the program. -/
theorem respects_program {p : Project σ} {disk : Disk} {s : Session σ}
    (haway : Unasked p disk away s.world) : Respects away (p.program disk) s := by
  intro t h
  rcases h.rootFiles haway with ⟨failure, s', t', hs, ht, hview⟩ |
    ⟨paths, s', t', hs, ht, hpaths, hspares, hread⟩
  · rw [program_of_rootless hs, program_of_rootless ht]
    exact ⟨rfl, hview⟩
  · rw [program_of_roots hs rfl, program_of_roots ht rfl, hread.versionsOf hpaths, hread.current?,
      keeping_of_sameView hpaths hread]
    cases Project.current? _ _ with
    | some b => exact ⟨rfl, hread⟩
    | none =>
        exact (respects_createProgram hspares _).bind
          (fun made s₁ _ => respects_keeping paths _ made s₁) _ (hread.preparing disk paths)

end Recheck.Proofs.Views
