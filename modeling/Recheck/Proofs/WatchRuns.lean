import Recheck.Proofs.FreshAnswers
import Recheck.Proofs.PendingChecks
import Recheck.Proofs.Readings
import Recheck.Proofs.WatchSteps

/-!
Watching from end to end. The text that a session knows of a file was there since the watcher last
looked, or the file is pending, or it could not be read at some moment since then. So once nothing
is pending and the watcher has looked, the session knows the texts that the disk has.
-/

namespace Recheck.Proofs.WatchRuns

open Recheck.Reactor
open Recheck.Proofs.Activities
open Recheck.Proofs.Paths
open Recheck.Proofs.PendingChecks
open Recheck.Proofs.Queries
open Recheck.Proofs.ReactorNotifications
open Recheck.Proofs.ReactorRuns
open Recheck.Proofs.Readings
open Recheck.Proofs.Scans
open Recheck.Proofs.Snapshots
open Recheck.Proofs.Trees
open Recheck.Proofs.WatchSteps

variable {σ : Type}

/-- The text of a file was there since the watcher last looked, or there was none. -/
def Recent (m : Moment σ) (path content : Text) : Prop :=
  ∃ disk ∈ m.disks, disk.text? path = some content ∨ disk.text? path = none

/-- What holds at every moment until the watch session is stopped. -/
structure Tracked (root patterns : List Text) (m : Moment σ) : Prop where
  ready : Ready m.watch.reactor
  below : ∀ path ∈ held m.watch.reactor.phase, Below root path
  trees : ∀ disk ∈ m.disks, PlainTree root disk
  baseline : m.watch.baseline = Watcher.scan m.looked patterns [pathOf root]
  /-- A file that has the time that it had when the watcher last looked is still the same. -/
  same : ∀ path time, m.disk.changed? path = some time → m.looked.changed? path = some time →
    ∀ disk ∈ m.disks, disk.node? path = m.disk.node? path
  texts : ∀ names, Covered patterns names → ∀ content,
    known m.watch.session.store (pathOf (root ++ names)) = some content →
      Pending (Below root) m.watch.reactor (pathOf (root ++ names)) ∨
        Recent m (pathOf (root ++ names)) content

section

variable {p : Project σ} {root patterns : List Text} {m : Moment σ}

theorem looked_mem (m : Moment σ) : m.looked ∈ m.disks := List.getLast_mem _

theorem changed?_of_node? {disk disk' : Disk} {path : Text}
    (h : disk.node? path = disk'.node? path) : disk.changed? path = disk'.changed? path := by
  rw [Disk.changed?, Disk.changed?, h]

theorem text?_of_node? {disk disk' : Disk} {path : Text}
    (h : disk.node? path = disk'.node? path) : disk.text? path = disk'.text? path := by
  rw [Disk.text?, Disk.bytes?, h, Disk.text?, Disk.bytes?]

theorem recent_edit {path content : Text} (h : Recent m path content) (disk : Disk) :
    Recent { m with disk, recent := m.disks } path content := by
  obtain ⟨before, hbefore, htext⟩ := h
  exact ⟨before, List.mem_cons_of_mem disk hbefore, htext⟩

theorem same_edit (h : Tracked root patterns m) {disk : Disk} (hfresh : Fresh m disk) {path : Text}
    {time : Int} (htime : disk.changed? path = some time)
    (hlooked : m.looked.changed? path = some time) :
    ∀ before ∈ disk :: m.disks, before.node? path = disk.node? path := by
  rcases hfresh path with hnode | hnew
  · have hsame := h.same path time ((changed?_of_node? hnode).symm.trans htime) hlooked
    refine List.forall_mem_cons.mpr ⟨rfl, fun before hbefore => ?_⟩
    rw [hsame before hbefore, hnode]
  · exact absurd hlooked (hnew time htime m.looked (looked_mem m))

theorem Tracked.edit (h : Tracked root patterns m) {disk : Disk} (htree : PlainTree root disk)
    (hfresh : Fresh m disk) : Tracked root patterns { m with disk, recent := m.disks } where
  ready := h.ready
  below := h.below
  trees := List.forall_mem_cons.mpr ⟨htree, h.trees⟩
  baseline := h.baseline
  same _ _ := same_edit h hfresh
  texts names hcovered content hknown :=
    (h.texts names hcovered content hknown).imp id fun hrecent => recent_edit hrecent disk

theorem Tracked.input (h : Tracked root patterns m) {i : Input} (hi : i ≠ .close)
    (hnotified : ∀ path ∈ notified i, Below root path)
    (hchecks : ∀ path, Checks (Below root) m.watch.reactor path i → ∀ content,
      known m.watch.session.store path = some content → Recent m path content) :
    Tracked root patterns (m.does (Watch.input i)) where
  ready := h.ready.step hi
  below path hpath := by
    rcases mem_held_of_step h.ready hi hpath with hold | hnew
    · exact h.below path hold
    · exact hnotified path hnew
  trees := h.trees
  baseline := h.baseline
  same := h.same
  texts names hcovered content hknown := by
    rcases h.texts names hcovered content hknown with hpending | hrecent
    · rcases hpending.step h.ready h.below hi with hstill | hrun
      · exact .inl hstill
      · exact .inr (hchecks _ hrun content hknown)
    · exact .inr hrecent

theorem Tracked.draws {α : Type} (h : Tracked root patterns m) {x : StateM (Watch σ) α}
    {s : Session σ} (hleaves : Leaves s m.watch (x.run m.watch).2)
    (hdrawn : Drawn m.disk m.watch.session.store s.store) : Tracked root patterns (m.does x) where
  ready := by simpa [Moment.does, hleaves.reactor] using h.ready
  below := by simpa [Moment.does, hleaves.reactor] using h.below
  trees := h.trees
  baseline := hleaves.baseline.trans h.baseline
  same := h.same
  texts names hcovered content hknown := by
    replace hknown : known s.store (pathOf (root ++ names)) = some content := by
      simpa [Moment.does, hleaves.session] using hknown
    rcases hdrawn _ content hknown with hold | hdisk
    · rcases h.texts names hcovered content hold with hpending | hrecent
      · exact .inl (by simpa [Moment.does, hleaves.reactor] using hpending)
      · exact .inr hrecent
    · exact .inr ⟨m.disk, List.mem_cons_self, .inl hdisk⟩

theorem resolve_below (p : Project σ) {disk : Disk} (hroot : ∀ name ∈ root, Proper name)
    (htree : PlainTree root disk) {path : Text} (h : Below root path) :
    p.resolve disk path = .ok path := by
  obtain ⟨names, rfl, hnames⟩ := h
  exact resolve_pathOf p (proper_of_append hroot hnames) (htree.unlinked names)

theorem known_asked {disk : Disk} {request : Request} (hroot : ∀ name ∈ root, Proper name)
    (htree : PlainTree root disk) (hbelow : ∀ path ∈ named request, Below root path)
    {path content : Text} (hpath : path ∈ named request) (htext : disk.text? path = some content)
    (s : Session σ) :
    ∃ s₁, asked p disk request s = some s₁ ∧ known s₁.store path = some content := by
  have hfile := isFile_of_text? htext
  have hrefreshed : ∃ paths, refreshed p disk request = .ok paths ∧ path ∈ paths := by
    cases request with
    | single file =>
        obtain rfl := List.mem_singleton.mp hpath
        have hresolve := resolve_below p hroot htree (hbelow path hpath)
        exact ⟨[path], by rw [refreshed_single hresolve, if_pos hfile], hpath⟩
    | changed paths =>
        have hsame : ∀ file ∈ paths, p.resolve disk file = .ok (id file) :=
          fun file hmem => resolve_below p hroot htree (hbelow file hmem)
        have hresolve : paths.mapM (p.resolve disk) = .ok paths := by
          rw [mapM_eq_ok hsame, List.map_id]
        refine ⟨paths.eraseDups.filter disk.isFile, ?_, ?_⟩
        · simp [refreshed, Project.existing, hresolve, bind, Except.bind, pure, Except.pure]
        · exact List.mem_filter.mpr ⟨List.mem_eraseDups.mpr hpath, hfile⟩
    | whole => cases hpath
  obtain ⟨paths, hpaths, hmem⟩ := hrefreshed
  refine ⟨_, ?_, known_refreshAll htext hmem { s with world := (p.tools.tick s.world).2 }⟩
  rw [asked_of_refreshed hpaths, if_pos]
  cases request with
  | changed =>
      cases paths with
      | nil => cases hmem
      | cons => rfl
  | single | whole => rfl

theorem text?_of_run {disk : Disk} {request : Request} (hroot : ∀ name ∈ root, Proper name)
    (htree : PlainTree root disk) (hbelow : ∀ path ∈ named request, Below root path)
    {path content : Text} (hpath : path ∈ named request) {s : Session σ}
    (hknown : known (outcome (p.run disk request) s).2.store path = some content) :
    disk.text? path = some content ∨ disk.text? path = none := by
  cases htext : disk.text? path with
  | none => exact .inr rfl
  | some now =>
      left
      obtain ⟨s₁, hasked, hnow⟩ := known_asked hroot htree hbelow hpath htext s
      rw [store_of_asked hasked] at hknown
      rcases drawn_program p disk s₁ path content hknown with hold | hdisk
      · exact hnow.symm.trans hold
      · exact htext.symm.trans hdisk

theorem recent_or_told (hroot : ∀ name ∈ root, Proper name) (h : Tracked root patterns m)
    {names : List Text} (hcovered : Covered patterns names) {content : Text}
    (hrecent : Recent m (pathOf (root ++ names)) content) :
    (m.disk.text? (pathOf (root ++ names)) = some content ∨
        m.disk.text? (pathOf (root ++ names)) = none) ∨
      pathOf (root ++ names) ∈ Watcher.difference m.watch.baseline
        (Watcher.scan m.disk patterns [pathOf root]) := by
  obtain ⟨before, hbefore, htext⟩ := hrecent
  cases hnow : m.disk.text? (pathOf (root ++ names)) with
  | none => exact .inl (.inr rfl)
  | some now =>
      obtain ⟨time, htime⟩ :=
        lookup_scan_of_text? hroot (h.trees m.disk List.mem_cons_self) hcovered hnow
      by_cases hseen : m.watch.baseline.lookup (pathOf (root ++ names)) = some time
      -- The file has the time of the last look, so all disks since then have it as it is now.
      · have hlooked := changed?_of_lookup_scan (h.baseline ▸ hseen)
        have hsame := h.same _ time (changed?_of_lookup_scan htime) hlooked before hbefore
        rw [text?_of_node? hsame, hnow] at htext
        exact .inl htext
      · exact .inr (mem_difference htime hseen)

theorem Tracked.poll (hroot : ∀ name ∈ root, Proper name) (h : Tracked root patterns m) :
    Tracked root patterns
      { m.does (Watch.poll m.disk patterns [pathOf root]) with recent := [] } := by
  obtain ⟨hsession, hbaseline, hreactor⟩ := poll_eq m.disk patterns [pathOf root] m.watch
  have htree := h.trees m.disk List.mem_cons_self
  have htold : ∀ path ∈ Watcher.difference m.watch.baseline
      (Watcher.scan m.disk patterns [pathOf root]), Below root path := by
    rw [h.baseline]
    exact fun path => below_of_mem_difference hroot (h.trees m.looked (looked_mem m)) htree
  refine ⟨?_, ?_, ?_, hbaseline, ?_, ?_⟩
  · simpa [Moment.does, hreactor] using ready_notifyAll h.ready _
  · intro path hpath
    simp only [Moment.does, hreactor] at hpath
    exact (mem_held_of_notifyAll h.ready hpath).elim (h.below path) (htold path)
  · exact List.forall_mem_cons.mpr ⟨htree, by simp⟩
  · simp [Moment.disks]
  · intro names hcovered content hknown
    simp only [Moment.does, hsession] at hknown
    have hpending : Pending (Below root) m.watch.reactor (pathOf (root ++ names)) ∨
        pathOf (root ++ names) ∈ Watcher.difference m.watch.baseline
          (Watcher.scan m.disk patterns [pathOf root]) →
        Pending (Below root)
          (m.does (Watch.poll m.disk patterns [pathOf root])).watch.reactor
          (pathOf (root ++ names)) := by
      simpa only [Moment.does, hreactor] using pending_notifyAll h.ready h.below htold
    rcases h.texts names hcovered content hknown with hold | hrecent
    · exact .inl (hpending (.inl hold))
    · rcases recent_or_told hroot h hcovered hrecent with htext | hnew
      · exact .inr ⟨m.disk, List.mem_cons_self, htext⟩
      · exact .inl (hpending (.inr hnew))

theorem tracked_begun (hp : p.root = pathOf root) {disk : Disk} (htree : PlainTree root disk)
    {millis : Number} {delay : Float} (hdelay : millis.thousandth = .ok delay) {w : Watch σ}
    (hstore : w.session.store = {}) (hreactor : w.reactor = fresh millis) :
    Tracked root patterns (begun p patterns disk w) where
  ready := by
    change Ready w.reactor
    rw [hreactor]
    exact ready_fresh hdelay
  below path hpath := by
    change path ∈ held w.reactor.phase at hpath
    simp [hreactor, fresh, held] at hpath
  trees := by simpa [Moment.disks, begun, Moment.does] using htree
  baseline := by rw [← hp]; rfl
  same := by simp [Moment.disks, begun, Moment.does]
  texts names hcovered content hknown := by
    change known w.session.store _ = _ at hknown
    rw [hstore] at hknown
    cases hknown

theorem Tracked.answered (h : Tracked root patterns m) {x : StateM (Watch σ) Answer} {s : Session σ}
    (hleaves : Leaves s m.watch (x.run m.watch).2)
    (hdrawn : Drawn m.disk m.watch.session.store s.store) {ticket : Nat} {c : Cycle}
    (hc : m.watch.reactor.cycle? ticket = some c)
    (hran : c.awaiting = .running → (∀ other ∈ named c.request, Below root other) →
      ∀ path ∈ named c.request, ∀ content, known s.store path = some content →
        Recent m path content) :
    Tracked root patterns (m.does do Watch.input (.answered ticket (← x))) := by
  rw [does_bind]
  refine (h.draws hleaves hdrawn).input (by simp) (by simp [notified]) ?_
  intro path hchecks content hknown
  have hreactor : (m.does x).watch.reactor = m.watch.reactor := hleaves.reactor
  have hsession : (m.does x).watch.session = s := hleaves.session
  rw [hreactor] at hchecks
  rw [hsession] at hknown
  cases hchecks with
  | mk a hc' hrunning hnamed hkind =>
      obtain rfl := Option.some.inj (hc.symm.trans hc')
      exact hran hrunning hkind path hnamed content hknown

/-- Whatever happens next, unless the watch session is stopped, keeps track. -/
theorem Tracked.step (hp : p.root = pathOf root) (hroot : ∀ name ∈ root, Proper name)
    (h : Tracked root patterns m) {m' : Moment σ} (hstep : Step p root patterns m m')
    (hopen : m'.watch.reactor.closed = false) : Tracked root patterns m' := by
  cases hstep with
  | edit htree hfresh => exact h.edit htree hfresh
  | outside world clock taker => exact ⟨h.ready, h.below, h.trees, h.baseline, h.same, h.texts⟩
  | poll => exact hp ▸ h.poll hroot
  | trigger request =>
      exact h.input (by simp) (by simp [notified]) fun _ hchecks => by cases hchecks
  | markFired timer =>
      exact h.input (by simp) (by simp [notified]) fun _ hchecks => by cases hchecks
  | @expire timer pending hdue =>
      obtain ⟨s, hstore, hleaves⟩ := leaves_isRoot p m.disk pending m.watch
      rw [does_bind]
      exact (h.draws hleaves (hstore ▸ Drawn.refl m.disk s.store)).input (by simp)
        (by simp [notified]) fun _ hchecks => by cases hchecks
  | @run ticket c hc hrunning =>
      refine h.answered (leaves_run p m.disk c.request m.watch)
        (drawn_run p m.disk c.request { m.watch.session with notes := [] }) hc ?_
      intro _ hbelow path hpath content hknown
      exact ⟨m.disk, List.mem_cons_self,
        text?_of_run hroot (h.trees m.disk List.mem_cons_self) hbelow hpath hknown⟩
  | @deliver ticket c hc hdelivering report =>
      refine h.answered (leaves_deliver p m.disk report m.watch) (Drawn.refl m.disk _) hc ?_
      simp [hdelivering]
  | @report ticket c hc hreporting failure =>
      refine h.answered (leaves_report p m.disk failure m.watch) (Drawn.refl m.disk _) hc ?_
      rcases hreporting with hreporting | hreporting <;> simp [hreporting]
  | query request =>
      exact h.draws (leaves_perform _ m.watch)
        (drawn_run p m.disk request { m.watch.session with notes := [] })
  | stop =>
      have hclosed : (m.does Watch.stop).watch.reactor.closed = true :=
        close_closed m.watch.reactor
      simp [hclosed] at hopen

theorem Tracked.run (hp : p.root = pathOf root) (hroot : ∀ name ∈ root, Proper name)
    (h : Tracked root patterns m) {m' : Moment σ}
    (hrun : Relation.ReflTransGen (Step p root patterns) m m')
    (hopen : m'.watch.reactor.closed = false) : Tracked root patterns m' := by
  induction hrun with
  | refl => exact h
  | tail _ hstep ih =>
      -- A session that is open now was open before: none is opened again.
      have hbefore := mt (closed_of_step hstep) (by simp [hopen])
      exact (ih (Bool.not_eq_true _ ▸ hbefore)).step hp hroot hstep hopen

/-- When the reactor has nothing to do and the watcher has looked since the last edit, the session
knows of each file that is watched the text that the disk has. -/
theorem content_eq_text {p : Project σ} {root patterns : List Text} (hp : p.root = pathOf root)
    (hroot : ∀ name ∈ root, Proper name) {disk : Disk} (htree : PlainTree root disk)
    {millis : Number} {delay : Float} (hdelay : millis.thousandth = .ok delay) {w : Watch σ}
    (hstore : w.session.store = {}) (hreactor : w.reactor = fresh millis) {m : Moment σ}
    (hrun : Relation.ReflTransGen (Step p root patterns) (begun p patterns disk w) m)
    (hopen : m.watch.reactor.closed = false) (hidle : m.watch.reactor.phase = .idle)
    (hlooked : m.recent = []) {names : List Text} (hcovered : Covered patterns names)
    {snapshot : Snapshot}
    (hsnapshot : m.watch.session.store.get? (pathOf (root ++ names)) = some snapshot) {text : Text}
    (htext : m.disk.text? (pathOf (root ++ names)) = some text) : snapshot.content = text := by
  have htracked := (tracked_begun hp htree hdelay hstore hreactor).run hp hroot hrun hopen
  rcases htracked.texts names hcovered snapshot.content
    (known_eq_some.mpr ⟨snapshot, hsnapshot, rfl⟩) with hpending | ⟨before, hbefore, hread⟩
  · exact absurd hpending (not_pending_of_idle htracked.ready.sound hidle _)
  · obtain rfl : before = m.disk := by simpa [Moment.disks, hlooked] using hbefore
    rcases hread with hsome | hnone
    · exact Option.some.inj (hsome.symm.trans htext)
    · simp [hnone] at htext

end

/-- A disk with one source file. -/
def oneFile (text : Text) (changed : Int) : Disk :=
  ⟨[(['a', '.', 'p', 'y'], .file (Text.toBytes text) changed)]⟩

def fileNames : List Text := [['a', '.', 'p', 'y']]

/-- The project that has this file only. -/
def watched : Project Rehearsal.World := FreshAnswers.project fileNames

def sources : List Text := [['*', '.', 'p', 'y']]

/-- Watching has begun with a check of the project, before the file changes. -/
def checked (millis : Number) : Moment Rehearsal.World :=
  Moment.does
    { disk := oneFile [] 0, watch := { session := { world := {} }, reactor := fresh millis } }
    (Watch.start watched (oneFile [] 0) sources [watched.root] true)

/-- The file has changed, and the watcher has looked. -/
def seen (millis : Number) : Moment Rehearsal.World :=
  { Moment.does { checked millis with disk := oneFile ['x'] 1, recent := (checked millis).disks }
      (Watch.poll (oneFile ['x'] 1) sources [watched.root]) with recent := [] }

theorem at?_oneFile {text : Text} {changed : Int} {names : List Text} {node : Node}
    (h : (oneFile text changed).at? names = some node) :
    (∃ entries, node = .directory entries) ∨ node = .file (Text.toBytes text) changed := by
  cases names with
  | nil => exact .inl ⟨_, (Option.some.inj h).symm⟩
  | cons name names =>
      simp only [Disk.at?, Disk.root, oneFile, Node.at?, lookup_cons_eq] at h
      split at h
      · cases names with
        | nil => exact .inr (Option.some.inj h).symm
        | cons => cases h
      · cases h

theorem changed?_oneFile {text : Text} {changed time : Int} {path : Text}
    (h : (oneFile text changed).changed? path = some time) : time = changed := by
  unfold Disk.changed? at h
  split at h
  · next bytes changed' hnode =>
      obtain ⟨place, -, hat⟩ := Option.bind_eq_some_iff.mp hnode
      rcases at?_oneFile hat with ⟨entries, hdirectory⟩ | hfile
      · cases hdirectory
      · cases hfile
        exact (Option.some.inj h).symm
  · cases h

theorem proper_fileNames : ∀ name ∈ fileNames, Proper name := by
  simp only [fileNames, List.mem_singleton, forall_eq, Proper, Plain]
  decide

theorem plainTree_oneFile (text : Text) (changed : Int) : PlainTree [] (oneFile text changed) where
  links names _ target hlink := by
    rcases at?_oneFile hlink with ⟨entries, hdirectory⟩ | hfile
    · cases hdirectory
    · cases hfile
  names := by
    have hwalk : (oneFile text changed).walk Watcher.isSkipped (pathOf []) = [fileNames] := rfl
    simpa [hwalk] using proper_fileNames

theorem covered_fileNames : Covered sources fileNames :=
  @Covered.mk sources [] ['a', '.', 'p', 'y'] proper_fileNames (by simp) (by decide +kernel)

theorem steps_seen (millis : Number) :
    Relation.ReflTransGen (Step watched [] sources)
      (begun watched sources (oneFile [] 0) { session := { world := {} }, reactor := fresh millis })
      (seen millis) := by
  have hedit : Step watched [] sources (checked millis)
      { checked millis with disk := oneFile ['x'] 1, recent := (checked millis).disks } := by
    refine .edit (plainTree_oneFile ['x'] 1) fun path => .inr ?_
    intro time htime before hbefore hold
    obtain rfl : before = oneFile [] 0 := List.mem_singleton.mp hbefore
    cases (changed?_oneFile htime).symm.trans (changed?_oneFile hold)
  exact ((steps_start (sound_fresh millis) true).tail hedit).tail (.poll _)

/-- The watched file changes, the watcher looks, and the check that this starts is over. -/
def rested : Moment Rehearsal.World :=
  (seen (.whole 50)).does (Watch.fire watched (oneFile ['x'] 1))

theorem content_eq_text_edited :
    rested.watch.reactor.phase = .idle ∧ rested.disk.text? (pathOf fileNames) = some ['x'] ∧
      ∃ snapshot, rested.watch.session.store.get? (pathOf fileNames) = some snapshot ∧
        snapshot.content = ['x'] := by
  have hsteps : Relation.ReflTransGen (Step watched [] sources)
      (begun watched sources (oneFile [] 0)
        { session := { world := {} }, reactor := fresh (.whole 50) }) rested :=
    (steps_seen (.whole 50)).trans
      (steps_fire (sound_of_steps (steps_seen (.whole 50)) (sound_fresh (.whole 50))))
  obtain ⟨delay, hdelay⟩ : ∃ delay, (Number.whole 50).thousandth = .ok delay := ⟨_, rfl⟩
  have hidle : rested.watch.reactor.phase = .idle := by decide +kernel
  have htext : rested.disk.text? (pathOf fileNames) = some ['x'] := by decide +kernel
  obtain ⟨snapshot, hsnapshot⟩ : ∃ snapshot,
      rested.watch.session.store.get? (pathOf fileNames) = some snapshot :=
    Option.isSome_iff_exists.mp (by decide +kernel)
  exact ⟨hidle, htext, snapshot, hsnapshot, content_eq_text (p := watched) rfl (by simp)
    (plainTree_oneFile [] 0) hdelay rfl rfl hsteps (by decide +kernel) hidle rfl covered_fileNames
    hsnapshot htext⟩

/-- Where no timer can run for the debounce time, the reactor takes no notification of the changed
file, and the watcher does not tell of it again. -/
theorem content_ne_text :
    PlainTree [] (oneFile [] 0) ∧ watched.root = pathOf [] ∧
    ∃ m snapshot, Relation.ReflTransGen (Step watched [] sources)
        (begun watched sources (oneFile [] 0)
          { session := { world := {} }, reactor := fresh boundless }) m ∧
      m.watch.reactor.closed = false ∧ m.watch.reactor.phase = .idle ∧ m.recent = [] ∧
      Covered sources fileNames ∧
      m.watch.session.store.get? (pathOf fileNames) = some snapshot ∧
      m.disk.text? (pathOf fileNames) = some ['x'] ∧ snapshot.content ≠ ['x'] := by
  refine ⟨plainTree_oneFile [] 0, rfl, seen boundless,
    ⟨pathOf fileNames, 0, []⟩, steps_seen _, ?_, ?_, rfl, covered_fileNames, ?_, ?_, by simp⟩
  · decide +kernel
  · decide +kernel
  · decide +kernel
  · decide +kernel

end Recheck.Proofs.WatchRuns
