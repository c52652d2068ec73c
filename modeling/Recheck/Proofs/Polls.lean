import Mathlib.Data.List.Induction
import Recheck.Proofs.Scans

/-!
Looks one after the other. Whatever the listener of a watcher does, each look is compared with the
scan before it, and the listener is told of the paths in which the two differ.
-/

namespace Recheck.Proofs.Polls

open Recheck.Watcher
open Recheck.Proofs.Scans
open Recheck.Proofs.Trees

variable {τ : Type}

theorem difference_eq {now : Baseline} (hnow : (now.map Prod.fst).Nodup) (before : Baseline) :
    difference before now =
      (now.map Prod.fst).filter (fun q => now.lookup q ≠ before.lookup q) ++
        (before.map Prod.fst).filter (fun q => (now.lookup q).isNone) := by
  have hseen : (now.filter fun e => before.lookup e.1 ≠ some e.2) =
      now.filter ((fun q => decide (now.lookup q ≠ before.lookup q)) ∘ Prod.fst) := by
    apply List.filter_congr
    rintro ⟨q, time⟩ hmem
    simp only [Function.comp_apply, lookup_of_mem hnow hmem]
    exact decide_eq_decide.mpr ne_comm
  rw [List.filter_map, List.filter_map, ← hseen]
  rfl

theorem mem_fst_of_lookup {seen : Baseline} {q : Text} {time : Int}
    (h : seen.lookup q = some time) : q ∈ seen.map Prod.fst :=
  List.mem_map.mpr ⟨(q, time), mem_of_lookup h, rfl⟩

theorem isSome_lookup_of_mem_fst {seen : Baseline} {q : Text} (h : q ∈ seen.map Prod.fst) :
    (seen.lookup q).isSome = true := by
  obtain ⟨⟨q, time⟩, hmem, rfl⟩ := List.mem_map.mp h
  exact isSome_lookup_of_mem hmem

theorem mem_difference_iff {now : Baseline} (hnow : (now.map Prod.fst).Nodup) (before : Baseline)
    (q : Text) : q ∈ difference before now ↔ now.lookup q ≠ before.lookup q := by
  simp only [difference_eq hnow, List.mem_append, List.mem_filter, decide_eq_true_eq,
    Option.isNone_iff_eq_none]
  constructor
  · rintro (⟨-, hother⟩ | ⟨hmem, hnone⟩)
    · exact hother
    · intro heq
      have hisSome := isSome_lookup_of_mem_fst hmem
      rw [← heq, hnone] at hisSome
      cases hisSome
  · intro hother
    cases hlookup : now.lookup q with
    | some time => exact .inl ⟨mem_fst_of_lookup hlookup, by rw [← hlookup]; exact hother⟩
    | none =>
        right
        rw [hlookup] at hother
        obtain ⟨time, htime⟩ := Option.ne_none_iff_exists'.mp hother.symm
        exact ⟨mem_fst_of_lookup htime, rfl⟩

theorem nodup_difference {before now : Baseline} (hbefore : (before.map Prod.fst).Nodup)
    (hnow : (now.map Prod.fst).Nodup) : (difference before now).Nodup := by
  rw [difference_eq hnow, List.nodup_append]
  refine ⟨hnow.filter _, hbefore.filter _, ?_⟩
  intro q hq q' hq' heq
  have hisSome := isSome_lookup_of_mem_fst (List.mem_filter.mp hq).1
  have hisNone := (List.mem_filter.mp hq').2
  rw [← heq, Option.isNone_iff_eq_none] at hisNone
  rw [hisNone] at hisSome
  cases hisSome

/-- A listener whose failures are none that end the program. -/
def Uninterrupted (listener : Text → StateM τ (Except Failure Unit)) : Prop :=
  ∀ path st failure, ((listener path).run st).1 = .error failure → failure.isHandled = true

/-- What a listener has come to once it was told of some paths, of each once. -/
def hear (listener : Text → StateM τ (Except Failure Unit)) (paths : List Text) (st : τ) : τ :=
  paths.foldl (fun st path => ((listener path).run st).2) st

theorem run_bind {α β : Type} (x : StateM τ α) (f : α → StateM τ β) (st : τ) :
    (x >>= f).run st = (f (x.run st).1).run (x.run st).2 := rfl

theorem tellAll_of_uninterrupted {listener : Text → StateM τ (Except Failure Unit)}
    (h : Uninterrupted listener) (paths : List Text) (st : τ) :
    ((tellAll listener paths).run st).1.2 = .ok () ∧
      ((tellAll listener paths).run st).2 = hear listener paths st := by
  induction paths generalizing st with
  | nil => exact ⟨rfl, rfl⟩
  | cons path paths ih =>
      rw [tellAll, run_bind]
      cases hanswer : ((listener path).run st).1 with
      | ok => exact ih _
      | error failure =>
          dsimp only
          rw [if_pos (h path st failure hanswer)]
          exact ih _

theorem exists_told (listener : Text → StateM τ (Except Failure Unit)) (paths : List Text)
    (st : τ) : ∃ told, told <+: paths ∧
      ((tellAll listener paths).run st).2 = hear listener told st := by
  induction paths generalizing st with
  | nil => exact ⟨[], List.prefix_rfl, rfl⟩
  | cons path paths ih =>
      obtain ⟨told, htold, hheard⟩ := ih ((listener path).run st).2
      have hcons : path :: told <+: path :: paths := List.cons_prefix_cons.mpr ⟨rfl, htold⟩
      rw [tellAll, run_bind]
      cases ((listener path).run st).1 with
      | ok => exact ⟨path :: told, hcons, hheard⟩
      | error failure =>
          dsimp only
          split
          · exact ⟨path :: told, hcons, hheard⟩
          · exact ⟨[path], by simp, rfl⟩

section

variable (listener : Text → StateM τ (Except Failure Unit)) (patterns paths : List Text)

/-- What a watcher does on the disk of the moment. -/
inductive Event
  | start (disk : Disk)
  | poll (disk : Disk)

def Event.disk : Event → Disk
  | start disk => disk
  | poll disk => disk

/-- What is compared with at the next look, and what the listener has come to. -/
def step : Baseline × τ → Event → Baseline × τ
  | (before, st), .start disk => ((start disk patterns paths before).baseline, st)
  | (before, st), .poll disk =>
    (((poll listener disk patterns paths before).run st).1.baseline,
      ((poll listener disk patterns paths before).run st).2)

def run (events : List Event) (st : τ) : Baseline × τ :=
  events.foldl (step listener patterns paths) ([], st)

/-- The last scan that was possible; nothing was seen before the first one. -/
def lastScan (events : List Event) : Baseline :=
  ((events.filterMap fun e => (scan? e.disk patterns paths).toOption).getLast?).getD []

theorem lastScan_concat (events : List Event) (e : Event) :
    lastScan patterns paths (events ++ [e]) =
      (scan? e.disk patterns paths).toOption.getD (lastScan patterns paths events) := by
  rw [lastScan, List.filterMap_append]
  cases hscan : (scan? e.disk patterns paths).toOption with
  | none => simp [hscan, lastScan]
  | some now => simp [hscan]

/-- However telling the listener ends, what was seen is what is compared with next. -/
theorem baseline_step (before : Baseline) (st : τ) (e : Event) :
    (step listener patterns paths (before, st) e).1 =
      (scan? e.disk patterns paths).toOption.getD before := by
  cases e with
  | start disk =>
      simp only [step, start, Event.disk]
      cases scan? disk patterns paths <;> rfl
  | poll disk =>
      simp only [step, poll, Event.disk]
      cases scan? disk patterns paths <;> rfl

theorem baseline_run (events : List Event) (st : τ) :
    (run listener patterns paths events st).1 = lastScan patterns paths events := by
  induction events using List.reverseRecOn with
  | nil => rfl
  | append_singleton events e ih =>
      rw [run, List.foldl_append, List.foldl_cons, List.foldl_nil, lastScan_concat, ← ih]
      exact baseline_step listener patterns paths _ _ e

variable {patterns paths} in
theorem nodup_of_scan? {disk : Disk} {now : Baseline} (h : scan? disk patterns paths = .ok now) :
    (now.map Prod.fst).Nodup := by
  rw [scan?] at h
  split at h
  · cases h
  · obtain rfl := Except.ok.inj h
    exact nodup_scan disk patterns paths

theorem nodup_lastScan (events : List Event) :
    ((lastScan patterns paths events).map Prod.fst).Nodup := by
  induction events using List.reverseRecOn with
  | nil => exact List.nodup_nil
  | append_singleton events e ih =>
      rw [lastScan_concat]
      cases hscan : scan? e.disk patterns paths with
      | error failure => exact ih
      | ok now => exact nodup_of_scan? hscan

/-- What comes of a look after some events, and what the listener has come to then. -/
def lookAfter (events : List Event) (disk : Disk) (st : τ) : Look × τ :=
  (poll listener disk patterns paths (run listener patterns paths events st).1).run
    (run listener patterns paths events st).2

variable {patterns paths} in
/-- A look tells of the paths whose times are others than at the last scan, where a path that was
not seen has none, each once: first of those that are seen now, in the order of the scan, then of
those that are gone, in the order of the last one. A listener that is not interrupted is told of
all of them in this order, whatever fails meanwhile; one that is interrupted, of the first ones.
The next look compares with this scan in any case. -/
theorem lookAfter_eq (events : List Event) {disk : Disk} {now : Baseline}
    (hscan : scan? disk patterns paths = .ok now) (st : τ) :
    ∃ report, (∀ q, q ∈ report ↔ now.lookup q ≠ (lastScan patterns paths events).lookup q) ∧
      report.Nodup ∧
      report =
        (now.map Prod.fst).filter
            (fun q => now.lookup q ≠ (lastScan patterns paths events).lookup q) ++
          ((lastScan patterns paths events).map Prod.fst).filter
            (fun q => (now.lookup q).isNone) ∧
      (Uninterrupted listener →
        (lookAfter listener patterns paths events disk st).1.changed = .ok report ∧
        (lookAfter listener patterns paths events disk st).2 =
          hear listener report (run listener patterns paths events st).2) ∧
      (∃ told, told <+: report ∧ (lookAfter listener patterns paths events disk st).2 =
        hear listener told (run listener patterns paths events st).2) ∧
      (lookAfter listener patterns paths events disk st).1.baseline = now := by
  have hnow := nodup_of_scan? hscan
  set before := lastScan patterns paths events with hbefore
  set st' := (run listener patterns paths events st).2 with hst'
  set told := (tellAll listener (difference before now)).run st' with htold
  have hlook : lookAfter listener patterns paths events disk st =
      ({ baseline := now, changed := told.1.2.map fun () => difference before now,
         entries := told.1.1 }, told.2) := by
    rw [lookAfter, baseline_run, ← hbefore, ← hst', poll, hscan]
    rfl
  rw [hlook]
  refine ⟨difference before now, mem_difference_iff hnow before,
    nodup_difference (nodup_lastScan patterns paths events) hnow, difference_eq hnow before,
    fun hlistener => ?_, exists_told listener (difference before now) st', rfl⟩
  obtain ⟨hending, hheard⟩ :=
    tellAll_of_uninterrupted hlistener (difference before now) st'
  rw [← htold] at hending hheard
  exact ⟨by rw [hending]; rfl, hheard⟩

end

/-- A listener that remembers the paths, the latest first, and fails for each. -/
def failing (path : Text) : StateM (List Text) (Except Failure Unit) := do
  modify (path :: ·)
  return .error (.crash ['x'])

theorem uninterrupted_failing : Uninterrupted failing := by
  intro path st failure h
  obtain rfl : Failure.crash ['x'] = failure := Except.error.inj h
  rfl

/-- A disk with empty files, each with the time of its last change. -/
def emptyFiles (files : List (Text × Int)) : Disk :=
  ⟨files.map fun (name, time) => (name, .file (Text.toBytes []) time)⟩

def earlier : Disk := emptyFiles [(['a'], 7), (['b'], 7)]

def later : Disk := emptyFiles [(['a'], 5), (['c'], 5)]

/-- The root with all files below it, and one of the files by itself. -/
def overlapping : List Text := [['/'], ['/', 'a']]

theorem lookAfter_eq_failing :
    (lookAfter failing [['*']] overlapping [.start earlier] later []).1.changed =
        .ok [['/', 'a'], ['/', 'c'], ['/', 'b']] ∧
      (lookAfter failing [['*']] overlapping [.start earlier] later []).2 =
        [['/', 'b'], ['/', 'c'], ['/', 'a']] := by
  have hscan : scan? later [['*']] overlapping = .ok [(['/', 'a'], 5), (['/', 'c'], 5)] := by
    decide +kernel
  have hlast : lastScan [['*']] overlapping [.start earlier] =
      [(['/', 'a'], 7), (['/', 'b'], 7)] := by decide +kernel
  obtain ⟨report, -, -, hreport, htold, -, -⟩ :=
    lookAfter_eq failing [.start earlier] hscan []
  rw [hlast] at hreport
  subst hreport
  obtain ⟨hchanged, hheard⟩ := htold uninterrupted_failing
  exact ⟨hchanged.trans rfl, hheard.trans rfl⟩

/-- A listener that remembers the paths, and is interrupted at each. -/
def interrupted (path : Text) : StateM (List Text) (Except Failure Unit) := do
  modify (path :: ·)
  return .error .interrupted

/-- The root by a way that is too long to be looked up. -/
def roundabout : Text := '/' :: Path.glue (List.replicate 1400 Path.up)

/-- Of three paths that differ, an interrupted listener is told of the first one, and the other two
are not told of at the next look either. A watched path that is too long ends a look without a
report of the others. -/
theorem not_told_interrupted :
    scan? later [['*']] overlapping = .ok [(['/', 'a'], 5), (['/', 'c'], 5)] ∧
      lastScan [['*']] overlapping [.start earlier] = [(['/', 'a'], 7), (['/', 'b'], 7)] ∧
      (lookAfter interrupted [['*']] overlapping [.start earlier] later []).1.changed =
        .error .interrupted ∧
      (lookAfter interrupted [['*']] overlapping [.start earlier] later []).2 = [['/', 'a']] ∧
      (lookAfter failing [['*']] overlapping [.start earlier, .poll later] later []).1.changed =
        .ok [] ∧
      Path.clean roundabout = ['/'] ∧ ∃ failure,
        (lookAfter failing [['*']] [['/'], roundabout] [.start earlier] later []).1.changed =
          .error failure := by
  refine ⟨by decide +kernel, by decide +kernel, rfl, rfl, rfl, by decide +kernel, ?_⟩
  obtain ⟨failure, hobstacle⟩ : ∃ failure,
      [['/'], roundabout].findSome? (obstacle? later) = some failure :=
    Option.isSome_iff_exists.mp (by decide +kernel)
  have hscan : scan? later [['*']] [['/'], roundabout] = .error failure := by
    rw [scan?, hobstacle]
  refine ⟨failure, ?_⟩
  rw [lookAfter, poll, hscan]
  rfl

end Recheck.Proofs.Polls
