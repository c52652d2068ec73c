import Mathlib.Algebra.Group.Nat.Defs
import Recheck.Cli.Check
import Recheck.Proofs.GroupedReports

/-!
Queries with figures and without. A project that collects figures reads the clock once more at the
very end of a query, and nothing else is different: the query fails as it would without them, or
finds the same errors.
-/

namespace Recheck.Proofs.Measurements

open Recheck.Decimal
open Recheck.Proofs.Activities

variable {σ α : Type}

/-- The clock gives doubles. -/
def Timed (tools : Tools σ) : Prop := ∀ w, ∃ x, (tools.tick w).1 = .real x

theorem bounds_ofFloat? {x : Float} {b : Binary} (h : Binary.ofFloat? x = some b) :
    b.mantissa < 2 ^ 53 ∧ b.exponent ≤ 971 := by
  have hlow : x.toBits.toNat % Nat.pow 2 52 < 2 ^ 52 := Nat.mod_lt _ (by decide)
  have hfield : x.toBits.toNat / Nat.pow 2 52 % 2048 < 2048 := Nat.mod_lt _ (by decide)
  unfold Binary.ofFloat? at h
  dsimp only at h
  split at h
  · cases h
  · split at h
    · obtain rfl := Option.some.inj h
      exact ⟨by dsimp only; omega, by dsimp only; omega⟩
    · obtain rfl := Option.some.inj h
      constructor
      · change 2 ^ 52 + _ < _
        omega
      · change (x.toBits.toNat / Nat.pow 2 52 % 2048 : Nat) - (1075 : Int) ≤ 971
        omega

theorem natAbs_truncate_lt {b : Binary} {low high : Nat} (hmantissa : b.mantissa < 2 ^ low)
    (hexponent : b.exponent ≤ high) : b.truncate.natAbs < 2 ^ (low + high) := by
  have hsize : b.truncate.natAbs =
      if 0 ≤ b.exponent then b.mantissa * Nat.pow 2 b.exponent.toNat
      else b.mantissa / Nat.pow 2 b.exponent.natAbs := by
    unfold Binary.truncate
    cases b.negative with
    | false => exact Int.natAbs_natCast _
    | true => exact (Int.natAbs_neg _).trans (Int.natAbs_natCast _)
  rw [hsize]
  split
  · calc b.mantissa * 2 ^ b.exponent.toNat
        < 2 ^ low * 2 ^ b.exponent.toNat :=
          Nat.mul_lt_mul_of_pos_right hmantissa (Nat.two_pow_pos _)
      _ ≤ 2 ^ low * 2 ^ high :=
          Nat.mul_le_mul_left _ (Nat.pow_le_pow_right (by decide) (by omega))
      _ = 2 ^ (low + high) := (Nat.pow_add 2 low high).symm
  · calc b.mantissa / Nat.pow 2 b.exponent.natAbs
        ≤ b.mantissa := Nat.div_le_self _ _
      _ < 2 ^ low := hmantissa
      _ ≤ 2 ^ (low + high) := Nat.pow_le_pow_right (by decide) (by omega)

theorem isSpellable_of_lt {n : Int} {bits : Nat} (hbits : bits ≤ Text.maxDigits)
    (h : n.natAbs < 2 ^ bits) : Text.isSpellable n = true := by
  unfold Text.isSpellable
  generalize Text.maxDigits = digits at hbits ⊢
  have hbase : 2 ^ bits ≤ 10 ^ bits := Nat.pow_le_pow_left (by decide) bits
  have hdigits : 10 ^ bits ≤ 10 ^ digits := Nat.pow_le_pow_right (by decide) hbits
  exact decide_eq_true (h.trans_le (hbase.trans hdigits))

/-- The milliseconds between two doubles have far fewer digits than a number may be spelled
with. -/
theorem isSpellable_elapsedMillis {start now : Float} {millis : Int}
    (h : (Number.real start).elapsedMillis (.real now) = .ok millis) :
    Text.isSpellable millis = true := by
  have htruncate : Number.truncate ((now - start) * 1000.0) = .ok millis := h
  unfold Number.truncate at htruncate
  split at htruncate
  · next b hb =>
      obtain ⟨hmantissa, hexponent⟩ := bounds_ofFloat? hb
      obtain rfl := Except.ok.inj htruncate
      exact @isSpellable_of_lt _ (53 + 971) (by decide) (natAbs_truncate_lt hmantissa hexponent)
  · cases htruncate

def withFigures (p : Project σ) (figures : Bool) : Project σ := { p with collectMetrics := figures }

/-- How a query without figures and one with them come out. -/
inductive Measured (tools : Tools σ) (start : Number) :
    Except Failure Report × Session σ → Except Failure Report × Session σ → Prop
  | failed (failure : Failure) (s : Session σ) :
      Measured tools start (.error failure, s) (.error failure, s)
  | timed {errors : List Record} {s : Session σ} {millis : Int} (checked : Nat)
      (h : start.elapsedMillis (tools.tick s.world).1 = .ok millis) :
      Measured tools start (.ok { errors }, s)
        (.ok { errors, metrics := some ⟨millis, checked, errors.length⟩ },
          { s with world := (tools.tick s.world).2 })
  | untimed {errors : List Record} {s : Session σ} {fault : Number.Fault}
      (h : start.elapsedMillis (tools.tick s.world).1 = .error fault) :
      Measured tools start (.ok { errors }, s)
        (.error (.arithmetic fault), { s with world := (tools.tick s.world).2 })

theorem Measured.errors {tools : Tools σ} {start : Number}
    {plain figured : Except Failure Report × Session σ} (h : Measured tools start plain figured)
    {millis : Int} (hfinite : start.elapsedMillis (tools.tick plain.2.world).1 = .ok millis) :
    figured.1.map (·.errors) = plain.1.map (·.errors) := by
  cases h with
  | failed failure s => rfl
  | timed checked h => rfl
  | untimed h => cases h.symm.trans hfinite

theorem Measured.not_figured {tools : Tools σ} {start : Number}
    {plain figured : Except Failure Report × Session σ} (h : Measured tools start plain figured)
    {report : Report} (hreport : plain.1 = .ok report) : report.metrics = none := by
  cases h with
  | failed failure s => cases hreport
  | timed checked h =>
      obtain rfl := Except.ok.inj hreport
      rfl
  | untimed h =>
      obtain rfl := Except.ok.inj hreport
      rfl

theorem Measured.checkMillis {tools : Tools σ} {start : Number}
    {plain figured : Except Failure Report × Session σ} (h : Measured tools start plain figured)
    {report : Report} (hreport : figured.1 = .ok report) {m : Metrics}
    (hm : report.metrics = some m) :
    start.elapsedMillis (tools.tick plain.2.world).1 = .ok m.checkMillis := by
  cases h with
  | failed failure s => cases hreport
  | timed checked h =>
      obtain rfl := Except.ok.inj hreport
      obtain rfl := Option.some.inj hm
      exact h
  | untimed h => cases hreport

theorem measured_bind {tools : Tools σ} {start : Number} {f g : α → Activity σ Report}
    (h : ∀ a s, Measured tools start (outcome (f a) s) (outcome (g a) s)) (x : Activity σ α)
    (s : Session σ) : Measured tools start (outcome (x >>= f) s) (outcome (x >>= g) s) := by
  rw [outcome_bind, outcome_bind]
  rcases outcome x s with ⟨failure | a, s'⟩
  · exact .failed failure s'
  · exact h a s'

theorem measured_report (p : Project σ) (errors : List Record) (start : Number) (checked : Nat)
    (s : Session σ) :
    Measured p.tools start (outcome ((withFigures p false).report errors start checked) s)
      (outcome ((withFigures p true).report errors start checked) s) := by
  have hquiet : outcome ((withFigures p false).report errors start checked) s =
      (.ok { errors }, s) := rfl
  rw [hquiet, Project.report, if_neg (by simp [withFigures]), outcome_bind, outcome_ask]
  dsimp only
  cases h : start.elapsedMillis (p.tools.tick s.world).1 with
  | ok millis =>
      simp only [withFigures, h]
      exact .timed checked h
  | error fault =>
      simp only [withFigures, h]
      exact .untimed h

theorem measured_checkFile (p : Project σ) (disk : Disk) (path : Text) (s : Session σ) :
    Measured p.tools (p.tools.tick s.world).1
      (outcome ((withFigures p false).checkFile disk path) s)
      (outcome ((withFigures p true).checkFile disk path) s) := by
  unfold Project.checkFile
  rw [outcome_bind, outcome_bind, outcome_ask, outcome_ask]
  refine measured_bind (fun path s => ?_) (liftM (p.resolve disk path)) _
  split
  · exact .failed _ s
  · refine measured_bind (fun _ s => ?_) _ s
    refine measured_bind (fun build s => ?_) (p.program disk) s
    refine measured_bind (fun errors s => ?_) (liftM (p.fileRecords build.program path)) s
    refine measured_bind (fun _ s => ?_) _ s
    exact measured_report p errors _ 1 s

theorem collect_withFigures (p : Project σ) (figures : Bool) (program : Program)
    (paths : List Text) :
    (withFigures p figures).collect program paths = p.collect program paths := by
  induction paths with
  | nil => rfl
  | cons path paths ih =>
      unfold Project.collect
      rw [ih]
      rfl

theorem measured_checkPaths (p : Project σ) (disk : Disk) (paths : List Text) (s : Session σ) :
    Measured p.tools (p.tools.tick s.world).1
      (outcome ((withFigures p false).checkPaths disk paths) s)
      (outcome ((withFigures p true).checkPaths disk paths) s) := by
  unfold Project.checkPaths
  rw [outcome_bind, outcome_bind, outcome_ask, outcome_ask]
  refine measured_bind (fun files s => ?_) (liftM (p.existing disk paths)) _
  refine measured_bind (fun _ s => ?_) _ s
  split
  · exact measured_report p [] _ 0 s
  · refine measured_bind (fun build s => ?_) (p.program disk) s
    rw [collect_withFigures, collect_withFigures]
    refine measured_bind (fun found s => ?_) (p.collect build.program files) s
    refine measured_bind (fun _ s => ?_) _ s
    exact measured_report p found.1 _ found.2 s

theorem measured_checkAll (p : Project σ) (disk : Disk) (s : Session σ) :
    Measured p.tools (p.tools.tick s.world).1
      (outcome ((withFigures p false).checkAll disk) s)
      (outcome ((withFigures p true).checkAll disk) s) := by
  unfold Project.checkAll
  rw [outcome_bind, outcome_bind, outcome_ask, outcome_ask]
  refine measured_bind (fun build s => ?_) (p.program disk) _
  refine measured_bind (fun errors s => ?_)
    (liftM (Record.ofDiagnostics p.directory p.root build.program.diagnostics)) s
  refine measured_bind (fun _ s => ?_) _ s
  exact measured_report p errors _ _ s

theorem measured_run (p : Project σ) (disk : Disk) (request : Request) (s : Session σ) :
    Measured p.tools (p.tools.tick s.world).1 (outcome ((withFigures p false).run disk request) s)
      (outcome ((withFigures p true).run disk request) s) := by
  cases request with
  | single path => exact measured_checkFile p disk path s
  | changed paths => exact measured_checkPaths p disk paths s
  | whole => exact measured_checkAll p disk s

end Recheck.Proofs.Measurements
