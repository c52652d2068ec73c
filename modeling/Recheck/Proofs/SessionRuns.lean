import Mathlib.Data.List.Induction
import Mathlib.Data.List.Perm.Subperm
import Recheck.Proofs.Distinct
import Recheck.Proofs.Queries

/-!
Runs of a session on a disk that changes. For the program that a session holds, each of its
source files either had no snapshot at some moment since the build, or its snapshot has grown out
of the one that the program was built with.
-/

namespace Recheck.Proofs.SessionRuns

open Recheck.Proofs.Activities
open Recheck.Proofs.Distinct
open Recheck.Proofs.Programs
open Recheck.Proofs.Queries
open Recheck.Proofs.Snapshots

variable {σ : Type} {directory : Text}

/-- A session and the disk that it works on. -/
structure State (σ : Type) where
  disk : Disk
  session : Session σ

/-- What happens to a session and its disk. -/
inductive Event (σ : Type)
  /-- The disk and the world become others. -/
  | edit (disk : Disk) (world : σ)
  | refresh (path : Text) (force : Bool)
  /-- A snapshot is looked up; a file without one is read. -/
  | lookup (path : Text)
  | program
  | query (request : Request)

/-- A session that has done nothing yet, on a disk. -/
def start (disk : Disk) (world : σ) : State σ := ⟨disk, { world }⟩

/-- What an event makes of a session and its disk. -/
def step (p : Project σ) (st : State σ) : Event σ → State σ
  | .edit disk world => ⟨disk, { st.session with world }⟩
  | .refresh path force => ⟨st.disk, st.session.refresh st.disk path force⟩
  | .lookup path => ⟨st.disk, st.session.ensureRead st.disk path⟩
  | .program => ⟨st.disk, (outcome (p.program st.disk) st.session).2⟩
  | .query request => ⟨st.disk, (outcome (p.run st.disk request) st.session).2⟩

def run (p : Project σ) (st : State σ) (events : List (Event σ)) : State σ :=
  events.foldl (step p) st

@[simp]
theorem run_nil (p : Project σ) (st : State σ) : run p st [] = st := rfl

theorem run_concat (p : Project σ) (st : State σ) (events : List (Event σ)) (e : Event σ) :
    run p st (events ++ [e]) = step p (run p st events) e := by
  simp [run]

/-- The session at the moment at which an event asks for the program, if it does. -/
def calls (p : Project σ) (st : State σ) : Event σ → Option (Session σ)
  | .program => some st.session
  | .query request => asked p st.disk request st.session
  | _ => none

/-- The source files that a program was built for. -/
def roots (b : Build) : List Text := b.versions.map (·.1)

/-- Every source of a file went into the build with a text. -/
def BuiltWith (directory : Text) (b : Build) (path : Text) (text : Option Text) : Prop :=
  ∀ source ∈ b.sources, fileOf directory source = some path → source.text = text

/-- At some moment of a run at which the session held a program, it had no snapshot of a path. -/
def AbsentSince (p : Project σ) (st : State σ) (events : List (Event σ)) (b : Build)
    (path : Text) : Prop :=
  ∃ before after, events = before ++ after ∧ (run p st before).session.build = some b ∧
    (run p st before).session.store.get? path = none

theorem AbsentSince.concat {p : Project σ} {st : State σ} {events : List (Event σ)} {b : Build}
    {path : Text} (h : AbsentSince p st events b path) (e : Event σ) :
    AbsentSince p st (events ++ [e]) b path := by
  obtain ⟨before, after, rfl, hbuild, hget⟩ := h
  exact ⟨before, after ++ [e], by simp, hbuild, hget⟩

theorem absentSince_of_get? {p : Project σ} {st : State σ} {events : List (Event σ)} {b : Build}
    {path : Text} (hbuild : (run p st events).session.build = some b)
    (hget : (run p st events).session.store.get? path = none) :
    AbsentSince p st events b path :=
  ⟨events, [], by simp, hbuild, hget⟩

/-- The snapshot of a source file has grown out of the one that the program was built with. -/
def Follows (directory : Text) (b : Build) (store : SnapshotStore) (path : Text) : Prop :=
  ∃ v s, (path, v) ∈ b.versions ∧ store.get? path = some s ∧ v ≤ s.version ∧
    (s.version = v → BuiltWith directory b path (some s.content))

theorem Follows.mono {b : Build} {store store' : SnapshotStore} {path : Text}
    (h : Follows directory b store path) (hgrows : GrowsAt path store store') :
    Follows directory b store' path := by
  obtain ⟨v, s, hv, hs, hle, htext⟩ := h
  obtain ⟨s', hs', hle', hcontent⟩ := hgrows s hs
  refine ⟨v, s', hv, hs', Nat.le_trans hle hle', fun hversion => ?_⟩
  rw [hcontent (by omega)]
  exact htext (by omega)

/-- The program was made in a session that had another one. -/
def Made (p : Project σ) (b : Build) : Prop :=
  ∃ disk s s', Ends p disk s (.ok b, s') ∧ s.build ≠ some b

theorem mem_roots_versionsAt {disk : Disk} {paths : List Text} {s : Session σ} {b : Build}
    (h : b.versions = versionsAt disk paths s) (path : Text) : path ∈ roots b ↔ path ∈ paths := by
  simp [roots, h, versionsAt, List.mem_eraseDups]

theorem Made.unique {p : Project σ} {b : Build} (h : Made p b) {path : Text} {v v' : Nat}
    (hv : (path, v) ∈ b.versions) (hv' : (path, v') ∈ b.versions) : v = v' := by
  obtain ⟨disk, s, s', hends, hother⟩ := h
  cases hends with
  | reused hroots hstored => exact absurd hstored hother
  | built hroots hstale hroots' hfound hget hsources hprogram hversions =>
      simp only [hversions, versionsAt, List.mem_map, Prod.mk.injEq] at hv hv'
      obtain ⟨_, -, rfl, rfl⟩ := hv
      obtain ⟨_, -, rfl, rfl⟩ := hv'
      rfl

theorem mem_of_sameVersions {b : Build} {paths : List Text} {version : Text → Nat}
    (h : Session.sameVersions (paths.eraseDups.map fun path => (path, version path)) b.versions =
      true) :
    (∀ path, path ∈ paths ↔ path ∈ roots b) ∧
      ∀ path ∈ paths, (path, version path) ∈ b.versions := by
  obtain ⟨hlength, hmem⟩ : paths.eraseDups.length = b.versions.length ∧
      ∀ path ∈ paths, (path, version path) ∈ b.versions := by
    simpa [Session.sameVersions] using h
  have hsub : paths.eraseDups ⊆ roots b := fun path hpath =>
    List.mem_map.mpr ⟨_, hmem path (List.mem_eraseDups.mp hpath), rfl⟩
  have hperm : paths.eraseDups.Perm (roots b) :=
    (List.subperm_of_subset (nodup_eraseDups paths) hsub).perm_of_length_le
      (by simpa [roots] using Nat.le_of_eq hlength.symm)
  refine ⟨fun path => ?_, hmem⟩
  rw [← hperm.mem_iff, List.mem_eraseDups]

theorem first_eq_none {disk : Disk} {path : Text} (h : ¬ disk.exists? path = true) :
    first disk path = none := by
  unfold first
  cases htext : disk.text? path with
  | none => rfl
  | some content => exact absurd (exists?_of_isFile (isFile_of_text? htext)) h

theorem growsAt_readWith {disk : Disk} {paths : List Text} {s s' : Session σ} {path : Text}
    (h : s'.store.get? path = readWith disk paths s path) : GrowsAt path s.store s'.store := by
  intro snapshot hs
  exact ⟨snapshot, by rw [h, readWith_of_get? hs], Nat.le_refl _, fun _ => rfl⟩

theorem growsAt_of_pruned {disk : Disk} {paths more : List Text} {s s' : Session σ} {path : Text}
    (h : s'.store.get? path =
      (prunedTo disk paths s path).or (if path ∈ more then first disk path else none)) :
    s'.store.get? path = none ∨ GrowsAt path s.store s'.store := by
  by_cases hkeep : (paths.contains path || disk.exists? path) = true
  · right
    intro snapshot hs
    have hkept : s'.store.get? path = some snapshot := by
      rw [h, prunedTo, if_pos hkeep, readWith_of_get? hs, Option.some_or]
    exact ⟨snapshot, hkept, Nat.le_refl _, fun _ => rfl⟩
  · left
    -- What was pruned does not exist, so the build has not read it again.
    have hfirst : first disk path = none :=
      first_eq_none fun hexists => hkeep (by rw [hexists, Bool.or_true])
    rw [h, prunedTo, if_neg hkeep, hfirst]
    simp

theorem fileOf_withText (text : Text → Option Text) (source : Source) :
    fileOf directory (withText directory text source) = fileOf directory source := by
  unfold withText
  split <;> rfl

theorem text_withText {text : Text → Option Text} {source : Source} {path : Text}
    (h : fileOf directory source = some path) :
    (withText directory text source).text = text path := by
  simp [withText, h]

theorem builtWith_known {b : Build} {found : List Source} {store : SnapshotStore}
    (h : b.sources = found.map (withText directory (known store))) (path : Text) :
    BuiltWith directory b path (known store path) := by
  intro source hsource hfile
  rw [h, List.mem_map] at hsource
  obtain ⟨original, -, rfl⟩ := hsource
  rw [fileOf_withText] at hfile
  exact text_withText hfile

theorem follows_of_built {disk : Disk} {paths : List Text} {found : List Source} {b : Build}
    {s s' : Session σ} {path : Text} (hversions : b.versions = versionsAt disk paths s)
    (hget : s'.store.get? path =
      (prunedTo disk paths s path).or
        (if path ∈ files directory found then first disk path else none))
    (hsources : b.sources = found.map (withText directory (known s'.store)))
    (hpath : path ∈ paths) :
    s'.store.get? path = none ∨ Follows directory b s'.store path := by
  rw [prunedTo_of_mem hpath] at hget
  cases hread : readWith disk paths s path with
  | none =>
      left
      have hfirst : first disk path = none := by
        rw [readWith_of_mem hpath, Option.or_eq_none_iff] at hread
        exact hread.2
      simp [hget, hread, hfirst]
  | some snapshot =>
      right
      have hsnapshot : s'.store.get? path = some snapshot := by rw [hget, hread, Option.some_or]
      refine ⟨snapshot.version, snapshot, ?_, hsnapshot, Nat.le_refl _, fun _ => ?_⟩
      · rw [hversions]
        exact List.mem_map.mpr ⟨path, List.mem_eraseDups.mpr hpath, by simp [hread]⟩
      · have hknown : known s'.store path = some snapshot.content := by simp [known, hsnapshot]
        exact hknown ▸ builtWith_known hsources path

theorem build_of_ends {p : Project σ} {disk : Disk} {s s' : Session σ}
    {answer : Except Failure Build} (h : Ends p disk s (answer, s')) {b : Build}
    (hb : s'.build = some b) :
    (s.build = some b ∧ ∀ path, s'.store.get? path = none ∨ GrowsAt path s.store s'.store) ∨
      (Made p b ∧ ∀ path ∈ roots b,
        s'.store.get? path = none ∨ Follows p.directory b s'.store path) := by
  have hends := h
  cases h with
  | rootless hkept hroots =>
      left
      exact ⟨hkept.2 ▸ hb, fun path => .inr (growsAt_of_eq (by rw [hkept.1]))⟩
  | reused hroots hstored hversions hget hbuild =>
      left
      exact ⟨hstored.trans (hbuild ▸ hb), fun path => .inr (growsAt_readWith (hget path))⟩
  | @unfound paths w w' failure s' hroots hstale hfound hget hbuild =>
      left
      refine ⟨hbuild ▸ hb, fun path => ?_⟩
      have hpruned : s'.store.get? path =
          (prunedTo disk paths s path).or (if path ∈ [] then first disk path else none) := by
        simp [hget]
      exact growsAt_of_pruned hpruned
  | unbuilt hroots hstale hroots' hfound hget hprogram hbuild =>
      left
      exact ⟨hbuild ▸ hb, fun path => growsAt_of_pruned (hget path)⟩
  | built hroots hstale hroots' hfound hget hsources hprogram hversions hnumber hbuild =>
      right
      obtain rfl := Option.some.inj (hbuild.symm.trans hb)
      refine ⟨⟨disk, s, s', hends, fun hstored => by simp [hstored] at hnumber⟩, ?_⟩
      intro path hpath
      rw [mem_roots_versionsAt hversions] at hpath
      exact follows_of_built hversions (hget path) hsources hpath

theorem refreshAll_build (disk : Disk) (paths : List Text) (s : Session σ) :
    (refreshAll disk paths s).build = s.build := by
  induction paths generalizing s with
  | nil => rfl
  | cons path paths ih => exact (ih _).trans (refresh_build disk path false s)

theorem growsAt_refreshAll (disk : Disk) (paths : List Text) (s : Session σ) (q : Text) :
    GrowsAt q s.store (refreshAll disk paths s).store := by
  induction paths generalizing s with
  | nil => exact growsAt_of_eq rfl
  | cons path paths ih => exact (growsAt_refresh disk path false s q).trans (ih _)

theorem calls_grown {p : Project σ} {st : State σ} {e : Event σ} {s : Session σ}
    (h : calls p st e = some s) :
    s.build = st.session.build ∧ ∀ path, GrowsAt path st.session.store s.store := by
  cases e with
  | program =>
      obtain rfl := Option.some.inj h
      exact ⟨rfl, fun path => growsAt_of_eq rfl⟩
  | query request =>
      obtain ⟨paths, -, rfl⟩ := asked_eq h
      exact ⟨refreshAll_build _ _ _, growsAt_refreshAll st.disk paths
        { st.session with world := (p.tools.tick st.session.world).2 }⟩
  | edit | refresh | lookup => simp [calls] at h

theorem step_cases (p : Project σ) (st : State σ) (e : Event σ) :
    ((step p st e).session.build = st.session.build ∧
        ∀ path, GrowsAt path st.session.store (step p st e).session.store) ∨
      ∃ s, calls p st e = some s ∧
        Kept (outcome (p.program st.disk) s).2 (step p st e).session := by
  cases e with
  | edit disk world => exact .inl ⟨rfl, fun path => growsAt_of_eq rfl⟩
  | refresh path force =>
      exact .inl ⟨refresh_build _ _ _ _, growsAt_refresh st.disk path force st.session⟩
  | lookup path =>
      exact .inl ⟨ensureRead_build _ _ _, growsAt_readAll st.disk [path] st.session⟩
  | program => exact .inr ⟨st.session, rfl, rfl, rfl⟩
  | query request =>
      cases h : asked p st.disk request st.session with
      | none =>
          have hkept := (run_of_not_asked h).1
          exact .inl ⟨hkept.2, fun path => growsAt_of_eq (congrArg (·.get? path) hkept.1)⟩
      | some s =>
          obtain ⟨rest, hrun, hkeeps, -⟩ := run_of_asked h
          refine .inr ⟨s, h, ?_⟩
          simp only [step, hrun, outcome_bind]
          rcases outcome (p.program st.disk) s with ⟨failure | b, s'⟩
          · exact ⟨rfl, rfl⟩
          · exact hkeeps b s'

theorem build_of_step {p : Project σ} (hcached : p.noCache = false) (st : State σ) (e : Event σ)
    {b : Build} (hb : (step p st e).session.build = some b) :
    (st.session.build = some b ∧ ∀ path, (step p st e).session.store.get? path = none ∨
        GrowsAt path st.session.store (step p st e).session.store) ∨
      (Made p b ∧ ∀ path ∈ roots b, (step p st e).session.store.get? path = none ∨
        Follows p.directory b (step p st e).session.store path) := by
  rcases step_cases p st e with ⟨hbuild, hgrows⟩ | ⟨s, hcall, hkept⟩
  · exact .inl ⟨hbuild ▸ hb, fun path => .inr (hgrows path)⟩
  · obtain ⟨hbuild, hgrows⟩ := calls_grown hcall
    rw [hkept.1]
    rw [hkept.2] at hb
    rcases build_of_ends (program_ends hcached st.disk s) hb with ⟨hstored, hget⟩ | hnew
    · exact .inl ⟨hbuild ▸ hstored, fun path => (hget path).imp_right (hgrows path).trans⟩
    · exact .inr hnew

theorem made_run {p : Project σ} (hcached : p.noCache = false) (disk : Disk) (world : σ)
    (events : List (Event σ)) {b : Build}
    (hb : (run p (start disk world) events).session.build = some b) : Made p b := by
  induction events using List.reverseRecOn with
  | nil => simp [start] at hb
  | append_singleton events e ih =>
      rw [run_concat] at hb
      rcases build_of_step hcached _ e hb with ⟨hstored, -⟩ | ⟨hmade, -⟩
      · exact ih hstored
      · exact hmade

/-- What holds of all programs that are read from listings holds of the program at hand after every
run. -/
theorem forall_run {p : Project σ} {P : Program → Prop}
    (hP : ∀ lines loaded program,
      Program.ofLines p.directory lines loaded = .ok program → P program)
    (disk : Disk) (world : σ) (events : List (Event σ)) :
    ∀ b, (run p (start disk world) events).session.build = some b → P b.program := by
  induction events using List.reverseRecOn with
  | nil => exact nofun
  | append_singleton events e ih =>
      rw [run_concat]
      rcases step_cases p (run p (start disk world) events) e with ⟨hbuild, -⟩ | ⟨s, hcall, hkept⟩
      · rw [hbuild]
        exact ih
      · rw [hkept.2]
        refine (forall_of_yields hP (program_yields p _ s) ?_).2
        rw [(calls_grown hcall).1]
        exact ih

/-- Since a program was built, each of its source files had no snapshot at some moment, or its
snapshot has grown out of the one that the program was built with. -/
theorem absentSince_or_follows {p : Project σ} (hcached : p.noCache = false) (disk : Disk)
    (world : σ) (events : List (Event σ)) {b : Build}
    (hb : (run p (start disk world) events).session.build = some b) :
    ∀ path ∈ roots b, AbsentSince p (start disk world) events b path ∨
      Follows p.directory b (run p (start disk world) events).session.store path := by
  induction events using List.reverseRecOn with
  | nil => simp [start] at hb
  | append_singleton events e ih =>
      intro path hpath
      -- Only where a snapshot is gone its descent from the one of the build ends.
      by_cases hget : (run p (start disk world) (events ++ [e])).session.store.get? path = none
      · exact .inl (absentSince_of_get? hb hget)
      rw [run_concat] at hb hget ⊢
      rcases build_of_step hcached _ e hb with ⟨hstored, hgrows⟩ | ⟨-, hnew⟩
      · exact (ih hstored path hpath).imp (·.concat e)
          (·.mono ((hgrows path).resolve_left hget))
      · exact .inr ((hnew path hpath).resolve_left hget)

end Recheck.Proofs.SessionRuns
