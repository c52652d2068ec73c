import Recheck.Proofs.Queries

/-!
Asking for the program, step by step: whether it comes to creating a program, and what others are
told meanwhile. That a program is ready is told only once it has been created.
-/

namespace Recheck.Proofs.Creations

open Recheck.Proofs.Activities
open Recheck.Proofs.Programs

variable {σ : Type} {p : Project σ} {disk : Disk} {s s' : Session σ}

/-- The session that is about to create a program for its source files. -/
def preparing (disk : Disk) (paths : List Text) (read : Session σ) : Session σ :=
  (read.prune disk paths).announce
    ("Building program (" ++ Text.ofNat paths.length ++ " root files)".toList)

/-- What is left of asking for a program once it has been created: the session that has read the
source files keeps the program with their versions, and announces it. -/
def keeping (paths : List Text) (read : Session σ) (made : Program × List Source) :
    Activity σ Build := do
  let build : Build :=
    { number := (read.build.map (·.number)).getD 0 + 1, program := made.1, sources := made.2
      versions := read.versionsOf paths }
  modify fun s => { s with build := some build }
  modify (·.announce
    ("Program ready (" ++ Text.ofNat made.1.diagnostics.length ++ " diagnostics)".toList))
  return build

theorem program_of_rootless {failure : Failure}
    (h : outcome (p.rootFiles disk) s = (.error failure, s')) :
    outcome (p.program disk) s = (.error failure, s') := by
  unfold Project.program
  exact outcome_bind_of_error h _

theorem program_of_roots {paths : List Text} {found read : Session σ}
    (h : outcome (p.rootFiles disk) s = (.ok paths, found))
    (hread : read = found.readAll disk p.noCache paths) :
    outcome (p.program disk) s = match Project.current? (read.versionsOf paths) read with
      | some b => (.ok b, read)
      | none => outcome (p.createProgram disk >>= keeping paths read)
        (preparing disk paths read) := by
  unfold Project.program
  rw [outcome_bind_of_ok h]
  simp only [outcome_bind, outcome_modify, outcome_get]
  rw [← hread]
  cases Project.current? (read.versionsOf paths) read with
  | some b => rfl
  | none =>
      simp only [outcome_bind, outcome_modify]
      rfl

/-- Asking for the program comes to creating one. -/
def Recreates (p : Project σ) (disk : Disk) (s : Session σ) : Prop :=
  ∃ paths found, outcome (p.rootFiles disk) s = (.ok paths, found) ∧
    outcome (p.program disk) s =
      outcome (p.createProgram disk >>= keeping paths (found.readAll disk p.noCache paths))
        (preparing disk paths (found.readAll disk p.noCache paths))

theorem recreates_of_stale {paths : List Text} {found read : Session σ}
    (h : outcome (p.rootFiles disk) s = (.ok paths, found))
    (hread : read = found.readAll disk p.noCache paths)
    (hstale : ∀ b, read.build = some b →
      Session.sameVersions (read.versionsOf paths) b.versions = false) : Recreates p disk s := by
  refine ⟨paths, found, h, ?_⟩
  rw [← hread, program_of_roots h hread, current?_eq_none_iff.mpr hstale]

theorem number_of_recreates (h : Recreates p disk s) {b : Build}
    (hb : (outcome (p.program disk) s).1 = .ok b) :
    b.number = (s.build.map (·.number)).getD 0 + 1 := by
  obtain ⟨paths, found, hroots, hprogram⟩ := h
  obtain ⟨w, hfound⟩ := outcome_rootFiles p disk s
  rw [hroots] at hfound
  have hkept : found.build = s.build := congrArg (·.2.build) hfound
  rw [hprogram] at hb
  set read := found.readAll disk p.noCache paths with hread
  have hbuild : read.build = s.build := (readAll_build disk p.noCache paths found).trans hkept
  rcases hmade : outcome (p.createProgram disk) (preparing disk paths read) with
    ⟨failure | made, s'⟩
  · rw [outcome_bind_of_error hmade] at hb
    cases hb
  · rw [outcome_bind_of_ok hmade] at hb
    obtain rfl := Except.ok.inj hb
    rw [← hbuild]

theorem program_error_cases {failure : Failure}
    (h : outcome (p.program disk) s = (.error failure, s')) :
    outcome (p.rootFiles disk) s = (.error failure, s') ∨
      ∃ paths found, outcome (p.rootFiles disk) s = (.ok paths, found) ∧
        outcome (p.createProgram disk)
          (preparing disk paths (found.readAll disk p.noCache paths)) = (.error failure, s') := by
  rcases hroots : outcome (p.rootFiles disk) s with ⟨failure' | paths, found⟩
  · obtain ⟨hfailure, rfl⟩ := Prod.mk.inj ((program_of_rootless hroots).symm.trans h)
    obtain rfl := Except.error.inj hfailure
    exact .inl rfl
  · refine .inr ⟨paths, found, rfl, ?_⟩
    rw [program_of_roots hroots rfl] at h
    split at h
    · cases h
    · set started := preparing disk paths (found.readAll disk p.noCache paths)
      rcases hmade : outcome (p.createProgram disk) started with ⟨failure' | made, s₁⟩
      · rw [outcome_bind_of_error hmade] at h
        obtain ⟨hfailure, rfl⟩ := Prod.mk.inj h
        obtain rfl := Except.error.inj hfailure
        rfl
      · rw [outcome_bind_of_ok hmade] at h
        cases h

/-- The first part of creating a program: the source files, and the sources among them with their
texts. -/
def collectSources (p : Project σ) (disk : Disk) : Activity σ (List Text × List Source) := do
  let roots ← p.rootFiles disk
  match ← Session.ask (p.tools.discover disk roots false) with
  | .error reason => throw (.fault (.sourcesNotCollected reason none))
  | .ok found => return (roots, ← modifyGet (Session.withTexts p.directory disk found))

/-- The other part of creating a program: the build of what was collected. -/
def buildSources (p : Project σ) (collected : List Text × List Source) :
    Activity σ (Program × List Source) := do
  match ← Session.ask (p.tools.build collected.2) with
  | .failed failure => throw failure
  | .blocked lines module =>
    modify (·.log .compiler ("mypy build stopped by blocking errors in " ++ module))
    return (← Program.ofLines p.directory lines collected.1, collected.2)
  | .finished lines loaded =>
    let program ← Program.ofLines p.directory lines (collected.1 ++ loaded.filter (!·.isEmpty))
    return (program, collected.2)

theorem outcome_createProgram (p : Project σ) (disk : Disk) (s : Session σ) :
    outcome (p.createProgram disk) s = outcome (collectSources p disk >>= buildSources p) s := by
  unfold Project.createProgram collectSources
  rw [bind_assoc]
  refine outcome_bind_congr (fun roots s => ?_) _ s
  rw [bind_assoc]
  refine outcome_bind_congr (fun found s => ?_) _ s
  cases found with
  | error reason => rfl
  | ok found => rfl

/-- What asking for the program hands to the build, or why there is nothing to hand over; nothing
where the program at hand is given out, or where the source files are not found. -/
def handed (p : Project σ) (disk : Disk) (s : Session σ) :
    Option (Except Failure (List Text × List Source)) :=
  match outcome (p.rootFiles disk) s with
  | (.error _, _) => none
  | (.ok paths, found) =>
    let read := found.readAll disk p.noCache paths
    match Project.current? (read.versionsOf paths) read with
    | some _ => none
    | none => some (outcome (collectSources p disk) (preparing disk paths read)).1

theorem handed_of_rootless {failure : Failure}
    (h : outcome (p.rootFiles disk) s = (.error failure, s')) : handed p disk s = none := by
  rw [handed, h]

theorem handed_of_roots {paths : List Text} {found read : Session σ}
    (h : outcome (p.rootFiles disk) s = (.ok paths, found))
    (hread : read = found.readAll disk p.noCache paths) :
    handed p disk s = match Project.current? (read.versionsOf paths) read with
      | some _ => none
      | none => some (outcome (collectSources p disk) (preparing disk paths read)).1 := by
  rw [handed, h, hread]

/-- Exactly where something is handed to the build a program is created. -/
theorem recreates_iff : Recreates p disk s ↔ (handed p disk s).isSome = true := by
  rcases hroots : outcome (p.rootFiles disk) s with ⟨failure | paths, found⟩
  · rw [handed_of_rootless hroots]
    constructor
    · rintro ⟨paths, found', hroots', -⟩
      cases hroots.symm.trans hroots'
    · exact fun h => Bool.noConfusion h
  · obtain ⟨w, hfound⟩ := outcome_rootFiles p disk s
    rw [hroots] at hfound
    set read := found.readAll disk p.noCache paths with hread
    have hbuild : read.build = s.build :=
      (readAll_build disk p.noCache paths found).trans (congrArg (·.2.build) hfound)
    rw [handed_of_roots hroots hread]
    cases hcurrent : Project.current? (read.versionsOf paths) read with
    | none =>
        exact iff_of_true (recreates_of_stale hroots hread (current?_eq_none_iff.mp hcurrent)) rfl
    | some b =>
        refine iff_of_false (fun hrecreates => ?_) Bool.noConfusion
        have hprogram := program_of_roots hroots hread
        rw [hcurrent] at hprogram
        have hnumber := number_of_recreates hrecreates (b := b) (by rw [hprogram])
        rw [← hbuild, (current?_eq_some_iff.mp hcurrent).1] at hnumber
        simp at hnumber

/-- Nobody was told meanwhile that a program is ready. -/
def Unready (s s' : Session σ) : Prop :=
  ∃ told, s'.notes = told ++ s.notes ∧
    ∀ message, .status message ∈ told → ¬ "Program ready".toList <+: message

theorem unready_of_notes (h : s'.notes = s.notes) : Unready s s' := ⟨[], h, by simp⟩

theorem Unready.trans {s'' : Session σ} (h : Unready s s') (h' : Unready s' s'') :
    Unready s s'' := by
  obtain ⟨told, hnotes, htold⟩ := h
  obtain ⟨told', hnotes', htold'⟩ := h'
  refine ⟨told' ++ told, by rw [hnotes', hnotes, List.append_assoc], fun message hmessage => ?_⟩
  rcases List.mem_append.mp hmessage with hmessage | hmessage
  · exact htold' message hmessage
  · exact htold message hmessage

theorem unready_log (part : Part) (message : Text) (s : Session σ) :
    Unready s (s.log part message) :=
  ⟨[.entry ⟨part, .debug, message⟩], rfl, by simp⟩

theorem unready_refresh (disk : Disk) (path : Text) (force : Bool) (s : Session σ) :
    Unready s (s.refresh disk path force) := by
  unfold Session.refresh
  split
  · exact unready_of_notes rfl
  · exact unready_log .host _ s

theorem unready_ensureRead (disk : Disk) (path : Text) (s : Session σ) :
    Unready s (s.ensureRead disk path) := by
  unfold Session.ensureRead
  split
  · exact unready_of_notes rfl
  · exact unready_refresh disk path false s

theorem unready_readAll (disk : Disk) (again : Bool) (paths : List Text) (s : Session σ) :
    Unready s (s.readAll disk again paths) := by
  induction paths generalizing s with
  | nil => exact unready_of_notes rfl
  | cons path paths ih =>
      refine Unready.trans ?_ (ih _)
      split
      · exact unready_refresh disk path true s
      · exact unready_ensureRead disk path s

theorem unready_withTexts (directory : Text) (disk : Disk) (sources : List Source)
    (s : Session σ) : Unready s (Session.withTexts directory disk sources s).2 := by
  fun_induction Session.withTexts directory disk sources s with
  | case1 s => exact unready_of_notes rfl
  | case2 source sources s hpath rest s' hrest ih | case3 source sources s hpath rest s' hrest ih =>
      rwa [hrest] at ih
  | case4 source sources s path hne hpath file read text rest s' hrest ih =>
      rw [hrest] at ih
      exact (unready_ensureRead disk _ s).trans ih

theorem unready_preparing (disk : Disk) (paths : List Text) (s : Session σ) :
    Unready s (preparing disk paths s) := by
  have hpruned : Unready s (s.prune disk paths) := by
    unfold Session.prune
    dsimp only
    split
    · exact unready_of_notes rfl
    · exact unready_log .host _ _
  refine hpruned.trans ⟨[.status _, .entry _], rfl, fun message hmessage => ?_⟩
  obtain rfl :
      message = "Building program (" ++ Text.ofNat paths.length ++ " root files)".toList := by
    simpa using hmessage
  rw [← List.isPrefixOf_iff_prefix]
  exact Bool.false_ne_true

/-- Whatever the activity comes to, it tells nobody that a program is ready. -/
def Silent {α : Type} (x : Activity σ α) : Prop := ∀ s, Unready s (outcome x s).2

theorem Silent.bind {α β : Type} {x : Activity σ α} {f : α → Activity σ β} (hx : Silent x)
    (hf : ∀ a, Silent (f a)) : Silent (x >>= f) :=
  outcome_bind_related Unready Unready.trans hx hf

theorem silent_pure {α : Type} (a : α) : Silent (pure a : Activity σ α) :=
  fun _ => unready_of_notes rfl

theorem silent_throw {α : Type} (failure : Failure) : Silent (throw failure : Activity σ α) :=
  fun _ => unready_of_notes rfl

theorem silent_lift {α : Type} (x : Except Failure α) : Silent (liftM x : Activity σ α) := by
  intro s
  rw [outcome_lift]
  exact unready_of_notes rfl

theorem silent_ask {α : Type} (question : σ → α × σ) : Silent (Session.ask question) :=
  fun _ => unready_of_notes rfl

theorem silent_rootFiles (p : Project σ) (disk : Disk) : Silent (p.rootFiles disk) := by
  intro s
  obtain ⟨w, hroots⟩ := outcome_rootFiles p disk s
  rw [hroots]
  exact unready_of_notes rfl

theorem silent_createProgram (p : Project σ) (disk : Disk) : Silent (p.createProgram disk) := by
  unfold Project.createProgram
  refine (silent_rootFiles p disk).bind fun paths => (silent_ask _).bind fun found => ?_
  cases found with
  | error reason => exact silent_throw _
  | ok found =>
      have hread : Silent (modifyGet (Session.withTexts p.directory disk found) :
        Activity σ (List Source)) :=
        unready_withTexts p.directory disk found
      refine hread.bind fun sources => (silent_ask _).bind fun built => ?_
      cases built with
      | failed failure => exact silent_throw _
      | blocked lines module =>
          exact Silent.bind (unready_log _ _) fun _ =>
            (silent_lift _).bind fun program => silent_pure _
      | finished lines loaded => exact (silent_lift _).bind fun program => silent_pure _

theorem unready_of_error {failure : Failure}
    (h : outcome (p.program disk) s = (.error failure, s')) : Unready s s' := by
  rcases program_error_cases h with hroots | ⟨paths, found, hroots, hmade⟩
  · have hsilent := silent_rootFiles p disk s
    rwa [hroots] at hsilent
  · have hfound := silent_rootFiles p disk s
    have hcreated := silent_createProgram p disk
      (preparing disk paths (found.readAll disk p.noCache paths))
    rw [hroots] at hfound
    rw [hmade] at hcreated
    exact ((hfound.trans (unready_readAll disk p.noCache paths found)).trans
      (unready_preparing disk paths _)).trans hcreated

end Recheck.Proofs.Creations
