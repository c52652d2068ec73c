import Mathlib.Data.List.Nodup
import Recheck.Proofs.ProgramReuse
import Recheck.Proofs.Readings

/-!
When a session without a cache builds again. It reads every source file again each time it is
asked for its program, and so gives each of them another version, but the versions of a file that
has lost its snapshot start over. So the program at hand can have the versions of the moment, and
is then given out for texts that it was not built with.
-/

namespace Recheck.Proofs.ForcedRebuilds

open Recheck.Proofs.Activities
open Recheck.Proofs.Distinct
open Recheck.Proofs.ProgramReuse
open Recheck.Proofs.Programs
open Recheck.Proofs.Queries
open Recheck.Proofs.Readings
open Recheck.Proofs.SessionRuns
open Recheck.Proofs.Snapshots
open Recheck.SnapshotStore

variable {σ : Type}

/-- The version of a path after it was read again some number of times. -/
def versionAfter (before : Option Nat) : Nat → Option Nat
  | 0 => before
  | n + 1 => versionAfter (some (before.elim 0 (· + 1))) n

theorem versionAfter_some (v n : Nat) : versionAfter (some v) n = some (v + n) := by
  induction n generalizing v with
  | zero => rfl
  | succ n ih =>
      change versionAfter (some (v + 1)) n = some (v + (n + 1))
      rw [ih, Nat.add_assoc, Nat.add_comm 1 n]

theorem version?_refresh {disk : Disk} {path content : Text}
    (h : disk.text? path = some content) (s : Session σ) (q : Text) :
    (s.refresh disk path true).store.version? q =
      if q = path then some ((s.store.version? q).elim 0 (· + 1)) else s.store.version? q := by
  simp only [Session.refresh, h, version?, get?_update]
  by_cases hq : q = path
  · subst hq
    cases s.store.get? q <;> simp [renew]
  · simp [hq]

theorem version?_readAll_again {disk : Disk} {paths : List Text}
    (hreadable : ∀ path ∈ paths, disk.text? path ≠ none) (s : Session σ) (q : Text) :
    (s.readAll disk true paths).store.version? q =
      versionAfter (s.store.version? q) (paths.count q) := by
  induction paths generalizing s with
  | nil => rfl
  | cons path paths ih =>
      obtain ⟨content, htext⟩ := Option.ne_none_iff_exists'.mp
        (hreadable path (List.mem_cons_self ..))
      have hcons : s.readAll disk true (path :: paths) =
          (s.refresh disk path true).readAll disk true paths := rfl
      rw [hcons, ih (fun path h => hreadable path (List.mem_cons_of_mem _ h)),
        version?_refresh htext]
      by_cases hq : q = path
      · subst hq
        rw [if_pos rfl, List.count_cons_self]
        rfl
      · rw [if_neg hq, List.count_cons_of_ne (Ne.symm hq)]

/-- The version that a build of some source files sees of a path. -/
def versionSeen (s : Session σ) (paths : List Text) (path : Text) : Nat :=
  (versionAfter (s.store.version? path) (paths.count path)).getD 0

theorem lt_versionSeen {s : Session σ} {paths : List Text} {path : Text} (hpath : path ∈ paths)
    {snapshot : Snapshot} (h : s.store.get? path = some snapshot) :
    snapshot.version < versionSeen s paths path := by
  have hcount := List.count_pos_iff.mpr hpath
  have hversion : s.store.version? path = some snapshot.version := by simp [version?, h]
  rw [versionSeen, hversion, versionAfter_some, Option.getD_some]
  omega

theorem versionsOf_readAll_again {disk : Disk} {paths : List Text}
    (hreadable : ∀ path ∈ paths, disk.text? path ≠ none) (s : Session σ) :
    (s.readAll disk true paths).versionsOf paths =
      paths.eraseDups.map fun path => (path, versionSeen s paths path) := by
  simp only [Session.versionsOf, Session.versionOf, version?_readAll_again hreadable, versionSeen]

/-- The source files of a program are some paths, each with the version that it is given. -/
def HasVersions (b : Build) (paths : List Text) (version : Text → Nat) : Prop :=
  (∀ path, path ∈ paths ↔ path ∈ roots b) ∧ ∀ path ∈ paths, (path, version path) ∈ b.versions

theorem sameVersions_iff {b : Build} (hnodup : (roots b).Nodup) (paths : List Text)
    (version : Text → Nat) :
    Session.sameVersions (paths.eraseDups.map fun path => (path, version path)) b.versions = true ↔
      HasVersions b paths version := by
  refine ⟨mem_of_sameVersions, ?_⟩
  rintro ⟨hmem, hversions⟩
  have hperm : paths.eraseDups.Perm (roots b) := by
    rw [List.perm_ext_iff_of_nodup (nodup_eraseDups paths) hnodup]
    intro path
    rw [List.mem_eraseDups, hmem]
  have hlength : paths.eraseDups.length = b.versions.length :=
    hperm.length_eq.trans (List.length_map ..)
  simpa [Session.sameVersions, hlength] using hversions

/-- A source file of a program has a snapshot, with at least the version of the build. -/
def Climbs (b : Build) (store : SnapshotStore) (path : Text) : Prop :=
  ∃ v s, (path, v) ∈ b.versions ∧ store.get? path = some s ∧ v ≤ s.version

theorem Climbs.mono {b : Build} {store store' : SnapshotStore} {path : Text}
    (h : Climbs b store path) (hgrows : GrowsAt path store store') : Climbs b store' path := by
  obtain ⟨v, s, hv, hs, hle⟩ := h
  obtain ⟨s', hs', hle', -⟩ := hgrows s hs
  exact ⟨v, s', hv, hs', Nat.le_trans hle hle'⟩

theorem growsAt_readAll_again (disk : Disk) (paths : List Text) (s : Session σ) (q : Text) :
    GrowsAt q s.store (s.readAll disk true paths).store := by
  induction paths generalizing s with
  | nil => exact growsAt_of_eq rfl
  | cons path paths ih => exact (growsAt_refresh disk path true s q).trans (ih _)

theorem growsAt_of_filled {store store' : SnapshotStore} {path : Text} {more : Option Snapshot}
    (h : store'.get? path = (store.get? path).or more) : GrowsAt path store store' := by
  intro s hs
  exact ⟨s, by rw [h, hs, Option.some_or], Nat.le_refl _, fun _ => rfl⟩

theorem growsAt_of_creates {p : Project σ} {disk : Disk} {s s' : Session σ}
    {answer : Except Failure (Program × List Source)} (h : Creates p disk s (answer, s'))
    (path : Text) : GrowsAt path s.store s'.store := by
  cases h with
  | unfound hkept hfound => exact growsAt_of_eq (by rw [hkept.1])
  | built hroots hfound hget hsources hbuild => exact growsAt_of_filled (hget path)

theorem growsAt_of_made {p : Project σ} {disk : Disk} {paths : List Text}
    {read pruned made : Session σ} {answer : Except Failure (Program × List Source)}
    (hpruned : Kept (read.prune disk paths) pruned)
    (hcreates : Creates p disk pruned (answer, made)) (path : Text) :
    made.store.get? path = none ∨ GrowsAt path read.store made.store := by
  have hget := get?_session_prune disk paths read path
  rw [← hpruned.1] at hget
  by_cases hkeep : (paths.contains path || disk.exists? path) = true
  · right
    rw [if_pos hkeep] at hget
    exact (growsAt_of_eq hget).trans (growsAt_of_creates hcreates path)
  · left
    rw [if_neg hkeep] at hget
    -- What was pruned does not exist, so the build has not read it again.
    have hfirst : first disk path = none :=
      first_eq_none fun hexists => hkeep (by rw [hexists, Bool.or_true])
    cases hcreates with
    | unfound hkept hfound => rw [hkept.1, hget]
    | built hroots hfound hget' hsources hbuild => simp [hget', hget, hfirst]

theorem versionOf_le {s s' : Session σ} {path : Text} (h : GrowsAt path s.store s'.store)
    {snapshot : Snapshot} (hsnapshot : s'.store.get? path = some snapshot) :
    s.versionOf path ≤ snapshot.version := by
  rw [Session.versionOf, version?]
  cases hget : s.store.get? path with
  | none => exact Nat.zero_le _
  | some earlier =>
      obtain ⟨later, hlater, hle, -⟩ := h earlier hget
      obtain rfl := Option.some.inj (hsnapshot.symm.trans hlater)
      exact hle

/-- Asking for the program leaves the program at hand, and each snapshot has grown or is gone, or
it leaves a new one, whose source files have at least the versions of its build. -/
theorem build_of_yields {p : Project σ} (hnoCache : p.noCache = true) {disk : Disk}
    {s s' : Session σ} {answer : Except Failure Build} (h : Yields p disk s (answer, s'))
    {b : Build} (hb : s'.build = some b) :
    (s.build = some b ∧ ∀ path, s'.store.get? path = none ∨ GrowsAt path s.store s'.store) ∨
      ((roots b).Nodup ∧ ∀ path ∈ roots b,
        s'.store.get? path = none ∨ Climbs b s'.store path) := by
  have hgrows : ∀ {paths : List Text} {w : σ} {read : Session σ},
      read = { s with world := w }.readAll disk p.noCache paths →
      ∀ path, GrowsAt path s.store read.store := by
    rintro paths w read rfl path
    rw [hnoCache]
    exact growsAt_readAll_again disk paths { s with world := w } path
  cases h with
  | rootless hkept hroots =>
      left
      exact ⟨hkept.2 ▸ hb, fun path => .inr (growsAt_of_eq (by rw [hkept.1]))⟩
  | reused hroots hread hstored hversions =>
      left
      refine ⟨?_, fun path => .inr (hgrows hread path)⟩
      rw [hread, readAll_build] at hb
      exact hb
  | failed hroots hread hstale hpruned hcreates hanswer =>
      left
      refine ⟨?_, fun path => ?_⟩
      · rw [build_of_creates hcreates, build_of_pruned hread hpruned] at hb
        exact hb
      · exact (growsAt_of_made hpruned hcreates path).imp_right (hgrows hread path).trans
  | @built paths w answer b' read pruned made s' hroots hread hstale hpruned hcreates hanswer
      hversions hnumber hstore hbuild =>
      right
      obtain rfl := Option.some.inj (hbuild.symm.trans hb)
      have hpaths : roots b' = paths.eraseDups := by
        simp [roots, hversions, Session.versionsOf, Function.comp_def]
      refine ⟨hpaths ▸ nodup_eraseDups paths, fun path hpath => ?_⟩
      rw [hstore]
      cases hget : made.store.get? path with
      | none => exact .inl rfl
      | some snapshot =>
          right
          rcases growsAt_of_made hpruned hcreates path with hgone | hgrown
          · simp [hget] at hgone
          · refine ⟨read.versionOf path, snapshot, ?_, hget, versionOf_le hgrown hget⟩
            rw [hversions]
            exact List.mem_map.mpr ⟨path, hpaths ▸ hpath, rfl⟩

theorem build_of_step_again {p : Project σ} (hnoCache : p.noCache = true) (st : State σ)
    (e : Event σ) {b : Build} (hb : (step p st e).session.build = some b) :
    (st.session.build = some b ∧ ∀ path, (step p st e).session.store.get? path = none ∨
        GrowsAt path st.session.store (step p st e).session.store) ∨
      ((roots b).Nodup ∧ ∀ path ∈ roots b, (step p st e).session.store.get? path = none ∨
        Climbs b (step p st e).session.store path) := by
  rcases step_cases p st e with ⟨hbuild, hgrows⟩ | ⟨s, hcall, hkept⟩
  · exact .inl ⟨hbuild ▸ hb, fun path => .inr (hgrows path)⟩
  · obtain ⟨hbuild, hgrows⟩ := calls_grown hcall
    rw [hkept.1]
    rw [hkept.2] at hb
    rcases build_of_yields hnoCache (program_yields p st.disk s) hb with ⟨hstored, hget⟩ | hnew
    · exact .inl ⟨hbuild ▸ hstored, fun path => (hget path).imp_right (hgrows path).trans⟩
    · exact .inr hnew

theorem absentSince_or_climbs {p : Project σ} (hnoCache : p.noCache = true) (disk : Disk)
    (world : σ) (events : List (Event σ)) {b : Build}
    (hb : (run p (start disk world) events).session.build = some b) :
    (roots b).Nodup ∧ ∀ path ∈ roots b, AbsentSince p (start disk world) events b path ∨
      Climbs b (run p (start disk world) events).session.store path := by
  induction events using List.reverseRecOn with
  | nil => simp [start] at hb
  | append_singleton events e ih =>
      have hstep : (step p (run p (start disk world) events) e).session.build = some b := by
        rwa [← run_concat]
      rcases build_of_step_again hnoCache _ e hstep with ⟨hstored, hgrows⟩ | ⟨hnodup, hnew⟩
      · obtain ⟨hnodup, hbefore⟩ := ih hstored
        refine ⟨hnodup, fun path hpath => ?_⟩
        rcases hgrows path with hgone | hgrown
        · exact .inl (absentSince_of_get? hb (by rwa [run_concat]))
        · rw [run_concat]
          exact (hbefore path hpath).imp (·.concat e) (·.mono hgrown)
      · refine ⟨hnodup, fun path hpath => ?_⟩
        rw [run_concat]
        exact (hnew path hpath).imp_left fun hgone =>
          absentSince_of_get? hb (by rwa [run_concat])

/-- How making a program ends whose source files have the texts of the disk. -/
inductive FromDisk (p : Project σ) (disk : Disk) (paths : List Text) :
    Except Failure (Program × List Source) → Prop
  | unfound {w w' : σ} {failure : Failure}
      (hfound : (rootsAt p disk w >>= fun roots => sourcesAt p disk roots w') = .error failure) :
      FromDisk p disk paths (.error failure)
  /-- The sources are found and built. -/
  | built {w w' w'' : σ} {roots : List Text} {found sources : List Source}
      {text : Text → Option Text} (hroots : rootsAt p disk w = .ok roots)
      (hfound : sourcesAt p disk roots w' = .ok found)
      (htext : ∀ path ∈ paths, text path = disk.text? path)
      (hsources : sources = found.map (withText p.directory text)) :
      FromDisk p disk paths
        ((programOf p.directory roots (p.tools.build sources w'').1).map fun program =>
          (program, sources))

/-- Asking for the program makes a new one from the texts of the disk, and does not give out the
one at hand. -/
def Rebuilds (p : Project σ) (disk : Disk) (paths : List Text) (s : Session σ) : Prop :=
  FromDisk p disk paths
      ((outcome (p.program disk) s).1.map fun b => (b.program, b.sources)) ∧
    ∀ b, s.build = some b → (outcome (p.program disk) s).1 ≠ .ok b

theorem fromDisk_of_creates {p : Project σ} (hnoCache : p.noCache = true) {disk : Disk}
    {paths : List Text} (hreadable : ∀ path ∈ paths, disk.text? path ≠ none) {w : σ}
    {s read pruned s' : Session σ} {answer : Except Failure (Program × List Source)}
    (hread : read = { s with world := w }.readAll disk p.noCache paths)
    (hpruned : Kept (read.prune disk paths) pruned)
    (hcreates : Creates p disk pruned (answer, s')) : FromDisk p disk paths answer := by
  cases hcreates with
  | unfound hkept hfound => exact .unfound hfound
  | built hroots hfound hget hsources hbuild =>
      refine .built hroots hfound (fun path hpath => ?_) hsources
      obtain ⟨content, htext⟩ := Option.ne_none_iff_exists'.mp (hreadable path hpath)
      have hkept := get?_session_prune disk paths read path
      rw [List.contains_iff_mem.mpr hpath, Bool.true_or, if_pos rfl, ← hpruned.1] at hkept
      rw [known_of_filled (hget path), known_of_get? hkept, hread, hnoCache,
        known_readAll_again htext hpath, htext, Option.some_or]

theorem rebuilds_iff_stale {p : Project σ} (hnoCache : p.noCache = true) {disk : Disk}
    {s : Session σ} {paths : List Text} (hroots : rootsAt p disk s.world = .ok paths)
    (hreadable : ∀ path ∈ paths, disk.text? path ≠ none) :
    Rebuilds p disk paths s ↔ ∀ b, s.build = some b →
      Session.sameVersions (paths.eraseDups.map fun path => (path, versionSeen s paths path))
        b.versions = false := by
  have hseen : ∀ {w : σ} {read : Session σ},
      read = { s with world := w }.readAll disk p.noCache paths →
      read.versionsOf paths = paths.eraseDups.map fun path => (path, versionSeen s paths path) := by
    rintro w read rfl
    rw [hnoCache]
    exact versionsOf_readAll_again hreadable { s with world := w }
  have hyields := program_yields p disk s
  unfold Rebuilds
  generalize outcome (p.program disk) s = result at hyields
  cases hyields with
  | rootless hkept hroots' => cases hroots.symm.trans hroots'
  | reused hroots' hread hstored hversions =>
      obtain rfl := Except.ok.inj (hroots.symm.trans hroots')
      rw [hseen hread] at hversions
      refine iff_of_false ?_ ?_
      · rintro ⟨-, hother⟩
        exact hother _ hstored rfl
      · intro hstale
        simp [hstale _ hstored] at hversions
  | failed hroots' hread hstale hpruned hcreates hanswer =>
      obtain rfl := Except.ok.inj (hroots.symm.trans hroots')
      rw [hseen hread] at hstale
      refine iff_of_true ⟨?_, by simp⟩ hstale
      simpa [hanswer, Except.map] using
        fromDisk_of_creates hnoCache hreadable hread hpruned hcreates
  | @built roots w answer b read pruned made s' hroots' hread hstale hpruned hcreates hanswer
      hversions hnumber hstore hbuild =>
      obtain rfl := Except.ok.inj (hroots.symm.trans hroots')
      rw [hseen hread] at hstale
      refine iff_of_true ⟨?_, ?_⟩ hstale
      · simpa [hanswer, Except.map] using
          fromDisk_of_creates hnoCache hreadable hread hpruned hcreates
      · intro b' hstored heq
        obtain rfl := Except.ok.inj heq
        simp [hstored] at hnumber

theorem not_hasVersions_of_climbs {b : Build} (hnodup : (roots b).Nodup) {s : Session σ}
    {paths : List Text} {path : Text} (hpath : path ∈ paths) (h : Climbs b s.store path) :
    ¬ HasVersions b paths (versionSeen s paths) := by
  rintro ⟨-, hversions⟩
  obtain ⟨v, snapshot, hv, hsnapshot, hle⟩ := h
  have hsame := List.inj_on_of_nodup_map hnodup hv (hversions path hpath) rfl
  have hlt := lt_versionSeen hpath hsnapshot
  simp only [Prod.mk.injEq, true_and] at hsame
  omega

/-- Where all source files can be read, a session without a cache makes a new program from the
texts of the disk exactly if the program at hand has other source files, or one of its source
files had another version than that which reading the file again has given it. This is so
whenever one of the source files had snapshots ever since the program at hand was built. -/
theorem rebuilds_iff {p : Project σ} (hnoCache : p.noCache = true) (disk : Disk) (world : σ)
    (events : List (Event σ)) {e : Event σ} {s : Session σ} {paths : List Text}
    (hcall : calls p (run p (start disk world) events) e = some s)
    (hroots : (outcome (p.rootFiles (run p (start disk world) events).disk) s).1 = .ok paths)
    (hreadable : ∀ path ∈ paths, (run p (start disk world) events).disk.text? path ≠ none) :
    (Rebuilds p (run p (start disk world) events).disk paths s ↔
      ∀ b, s.build = some b → ¬ HasVersions b paths (versionSeen s paths)) ∧
    ∀ b path, s.build = some b → path ∈ paths →
      ¬ AbsentSince p (start disk world) events b path →
        Rebuilds p (run p (start disk world) events).disk paths s := by
  rw [outcome_rootFiles_fst] at hroots
  obtain ⟨hbuild, hgrows⟩ := calls_grown hcall
  have hinvariant : ∀ {b}, s.build = some b → (roots b).Nodup ∧ ∀ path ∈ roots b,
      AbsentSince p (start disk world) events b path ∨ Climbs b s.store path := by
    intro b hb
    obtain ⟨hnodup, hclimbs⟩ := absentSince_or_climbs hnoCache disk world events (hbuild ▸ hb)
    exact ⟨hnodup, fun path hpath => (hclimbs path hpath).imp_right (·.mono (hgrows path))⟩
  have hiff : Rebuilds p (run p (start disk world) events).disk paths s ↔
      ∀ b, s.build = some b → ¬ HasVersions b paths (versionSeen s paths) := by
    rw [rebuilds_iff_stale hnoCache hroots hreadable]
    refine forall_congr' fun b => imp_congr_right fun hb => ?_
    rw [← sameVersions_iff (hinvariant hb).1, Bool.not_eq_true]
  refine ⟨hiff, fun b path hb hpath hpresent => hiff.mpr fun b' hb' hsame => ?_⟩
  obtain rfl := Option.some.inj (hb.symm.trans hb')
  obtain ⟨hnodup, hclimbs⟩ := hinvariant hb
  rcases hclimbs path ((hsame.1 path).mp hpath) with habsent | hclimbs
  · exact hpresent habsent
  · exact not_hasVersions_of_climbs hnodup hpath hclimbs hsame

/-- The project with the compiler that looks for two files, without a cache. -/
def uncachedPair : Project Unit := { pair with noCache := true }

theorem rebuilds_iff_present :
    uncachedPair.noCache = true ∧
      (outcome (uncachedPair.rootFiles (holding 'a' 0x78))
        (run uncachedPair (start (holding 'a' 0x78) ()) [.program]).session).1 = .ok [['/', 'a']] ∧
      Rebuilds uncachedPair (holding 'a' 0x78) [['/', 'a']]
        (run uncachedPair (start (holding 'a' 0x78) ()) [.program]).session := by
  have hreadable : ∀ path ∈ [['/', 'a']], (holding 'a' 0x78).text? path ≠ none := by
    intro path hpath
    obtain rfl := List.mem_singleton.mp hpath
    decide
  refine ⟨rfl, rfl, (rebuilds_iff (p := uncachedPair) rfl (holding 'a' 0x78) () [.program]
    (e := .program) rfl rfl hreadable).2 (firstBuild (some ['x'])) ['/', 'a'] rfl
    (List.mem_singleton.mpr rfl) ?_⟩
  rintro ⟨before, after, heq, hbuild, hget⟩
  cases before with
  | nil => cases hbuild
  | cons e before =>
      obtain ⟨rfl, hrest⟩ := List.cons.inj heq
      obtain ⟨rfl, rfl⟩ := List.append_eq_nil_iff.mp hrest.symm
      cases hget

/-- A file that could not be read when the program was built. -/
def unreadAgain : State Unit :=
  run uncachedPair (start (holding 'a' 0xff) ()) [.program, .edit (holding 'a' 0x78) ()]

/-- A file that was pruned by a build that failed, and came back with another text. -/
def prunedAgain : State Unit :=
  run uncachedPair (start (holding 'a' 0x78) ())
    [.program, .edit (holding 'b' 0x21) (), .program, .edit (holding 'a' 0x79) ()]

/-- Both times the program at hand is given out, though the source file can be read and has
another text than the program was built with. -/
theorem not_rebuilds_unread :
    ((outcome (uncachedPair.rootFiles unreadAgain.disk) unreadAgain.session).1 =
        .ok [['/', 'a']] ∧
      unreadAgain.disk.text? ['/', 'a'] = some ['x'] ∧
      unreadAgain.session.build = some (firstBuild none) ∧
      (outcome (uncachedPair.program unreadAgain.disk) unreadAgain.session).1 =
        .ok (firstBuild none)) ∧
    (outcome (uncachedPair.rootFiles prunedAgain.disk) prunedAgain.session).1 =
        .ok [['/', 'a']] ∧
      prunedAgain.disk.text? ['/', 'a'] = some ['y'] ∧
      prunedAgain.session.build = some (firstBuild (some ['x'])) ∧
      (outcome (uncachedPair.program prunedAgain.disk) prunedAgain.session).1 =
        .ok (firstBuild (some ['x'])) :=
  ⟨⟨rfl, rfl, rfl, rfl⟩, rfl, rfl, rfl, rfl⟩

end Recheck.Proofs.ForcedRebuilds
