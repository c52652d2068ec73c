import Recheck.Config

/-!
What goes wrong when a configuration is loaded. It should be a fault of the configuration, which
its user can mend. Other failures have four reasons: a path that cannot be looked up, a file that
is no text, a number that is too long, and an entry for tools that is no table.
-/

namespace Recheck.Proofs.ConfigurationFaults

open Recheck.Config

variable {α β : Type}

def isConfigurationFault : Failure → Bool
  | .fault cause => cause.kind = .configuration
  | _ => false

/-- The answer is a fault of the configuration. -/
def Refuses (answer : Except Failure α) : Prop :=
  ∃ failure, answer = .error failure ∧ isConfigurationFault failure = true

/-- The answer is a failure that is no fault of the configuration. -/
def Breaks (answer : Except Failure α) (failure : Failure) : Prop :=
  answer = .error failure ∧ isConfigurationFault failure = false

theorem not_breaks_ok (a : α) (failure : Failure) :
    ¬ Breaks (.ok a : Except Failure α) failure := by
  rintro ⟨h, -⟩
  cases h

theorem breaks_error_iff (failure failure' : Failure) :
    Breaks (.error failure : Except Failure α) failure' ↔
      failure' = failure ∧ isConfigurationFault failure = false := by
  constructor
  · rintro ⟨heq, hforeign⟩
    obtain rfl := Except.error.inj heq
    exact ⟨rfl, hforeign⟩
  · rintro ⟨rfl, hforeign⟩
    exact ⟨rfl, hforeign⟩

theorem not_breaks_fault {cause : Fault} (h : cause.kind = .configuration) (failure : Failure) :
    ¬ Breaks (.error (.fault cause) : Except Failure α) failure := by
  rw [breaks_error_iff]
  simp [isConfigurationFault, h]

theorem breaks_bind_iff (x : Except Failure α) (f : α → Except Failure β) (failure : Failure) :
    Breaks (x >>= f) failure ↔ Breaks x failure ∨ ∃ a, x = .ok a ∧ Breaks (f a) failure := by
  cases x with
  | ok a =>
      have hnot := not_breaks_ok a failure
      simp [hnot, bind, Except.bind]
  | error failure' => simp [Breaks, bind, Except.bind]

theorem breaks_map_iff (x : Except Failure α) (f : α → β) (failure : Failure) :
    Breaks (x.map f) failure ↔ Breaks x failure := by
  cases x <;> simp [Breaks, Except.map]

theorem ok_or_refuses_iff (answer : Except Failure α) :
    (∃ a, answer = .ok a) ∨ Refuses answer ↔ ∀ failure, ¬ Breaks answer failure := by
  cases answer with
  | ok a => exact iff_of_true (.inl ⟨a, rfl⟩) (not_breaks_ok a)
  | error failure => simp [Refuses, Breaks]

/-- Why a file that may configure the compiler cannot be read. -/
inductive Illegible (disk : Disk) (path : Text) : Candidate → Failure → Prop
  | undecodable {candidate : Candidate} (h : disk.text? path = none) :
      Illegible disk path candidate .undecodable
  | tooManyDigits {t : Text} {count : Nat} (ht : disk.text? path = some t)
      (h : Toml.read t = .error (.tooManyDigits count)) :
      Illegible disk path .projectFile (.tooManyDigits count)

/-- The entry for tools in a project file that can be read. -/
def HasTools (disk : Disk) (path : Text) (tools : Datum) : Prop :=
  ∃ t fields, disk.text? path = some t ∧ Toml.read t = .ok fields ∧ toolEntry fields = tools

def isTable : Datum → Bool
  | .table _ => true
  | _ => false

def isSearchable : Datum → Bool
  | .table _ | .list _ | .text _ => true
  | _ => false

/-- Why it cannot be told whether a candidate configures the compiler. -/
inductive Obscures (disk : Disk) (path : Text) : Candidate → Failure → Prop
  | illegible {candidate : Candidate} {failure : Failure}
      (h : Illegible disk path candidate failure) : Obscures disk path candidate failure
  | notSearchable {tools : Datum} (ht : HasTools disk path tools)
      (h : isSearchable tools = false) : Obscures disk path .projectFile .notSearchable

theorem fileText_of_some {disk : Disk} {path t : Text} (h : disk.text? path = some t) :
    fileText disk path = .ok t := by
  rw [fileText, h]

theorem fileText_of_none {disk : Disk} {path : Text} (h : disk.text? path = none) :
    fileText disk path = .error .undecodable := by
  rw [fileText, h]

theorem breaks_readIni_iff (disk : Disk) (path : Text) (failure : Failure) :
    Breaks (readIni disk path) failure ↔ disk.text? path = none ∧ failure = .undecodable := by
  unfold readIni
  cases ht : disk.text? path with
  | none =>
      rw [fileText_of_none ht]
      exact (breaks_error_iff _ _).trans (by simp [isConfigurationFault])
  | some t =>
      rw [fileText_of_some ht]
      refine iff_of_false ?_ (by simp)
      cases hsections : Ini.sections? t with
      | some sections =>
          simp only [bind, Except.bind, hsections]
          exact not_breaks_ok sections failure
      | none =>
          simp only [bind, Except.bind, hsections]
          exact not_breaks_fault rfl failure

theorem readToml_of_text {disk : Disk} {path t : Text} (ht : disk.text? path = some t) :
    readToml disk path = match Toml.read t with
      | .ok fields => .ok fields
      | .error .malformed => .error (.fault (.unparsable "<toml error>" path))
      | .error (.tooManyDigits count) => .error (.tooManyDigits count) := by
  unfold readToml
  rw [fileText_of_some ht]
  rfl

theorem illegible_projectFile_iff (disk : Disk) (path : Text) (failure : Failure) :
    Illegible disk path .projectFile failure ↔
      (disk.text? path = none ∧ failure = .undecodable) ∨
        ∃ t count, disk.text? path = some t ∧ Toml.read t = .error (.tooManyDigits count) ∧
          failure = .tooManyDigits count := by
  constructor
  · rintro (htext | ⟨ht, hread⟩)
    · exact .inl ⟨htext, rfl⟩
    · exact .inr ⟨_, _, ht, hread, rfl⟩
  · rintro (⟨htext, rfl⟩ | ⟨t, count, ht, hread, rfl⟩)
    · exact .undecodable htext
    · exact .tooManyDigits ht hread

theorem breaks_readToml_iff (disk : Disk) (path : Text) (failure : Failure) :
    Breaks (readToml disk path) failure ↔ Illegible disk path .projectFile failure := by
  rw [illegible_projectFile_iff]
  cases ht : disk.text? path with
  | none =>
      have hread : readToml disk path = .error .undecodable := by
        unfold readToml
        rw [fileText_of_none ht]
        rfl
      simp [hread, breaks_error_iff, isConfigurationFault]
  | some t =>
      rw [readToml_of_text ht]
      cases hread : Toml.read t with
      | ok fields => simp [not_breaks_ok, hread]
      | error flaw =>
          cases flaw <;>
            simp [breaks_error_iff, isConfigurationFault, Fault.kind, Fault.notice, hread]

theorem exists_readToml_iff (disk : Disk) (path : Text) (P : Datum → Prop) :
    (∃ fields, readToml disk path = .ok fields ∧ P (toolEntry fields)) ↔
      ∃ tools, HasTools disk path tools ∧ P tools := by
  constructor
  · rintro ⟨fields, hread, htools⟩
    cases ht : disk.text? path with
    | none =>
        unfold readToml at hread
        rw [fileText_of_none ht] at hread
        cases hread
    | some t =>
        rw [readToml_of_text ht] at hread
        cases hfields : Toml.read t with
        | ok fields' =>
            obtain rfl : fields' = fields := by simpa [hfields] using hread
            exact ⟨toolEntry fields', ⟨t, fields', ht, hfields, rfl⟩, htools⟩
        | error flaw => cases flaw <;> simp [hfields] at hread
  · rintro ⟨tools, ⟨t, fields, ht, hread, rfl⟩, htools⟩
    exact ⟨fields, by rw [readToml_of_text ht, hread], htools⟩

theorem breaks_names_iff (name : Text) (tools : Datum) (failure : Failure) :
    Breaks (names name tools) failure ↔ isSearchable tools = false ∧ failure = .notSearchable := by
  cases tools <;>
    simp [names, isSearchable, not_breaks_ok, breaks_error_iff, isConfigurationFault]

theorem obscures_ini_iff {candidate : Candidate} (hini : candidate ≠ .projectFile) (disk : Disk)
    (path : Text) (failure : Failure) :
    Obscures disk path candidate failure ↔ disk.text? path = none ∧ failure = .undecodable := by
  constructor
  · rintro ((htext | -) | -)
    · exact ⟨htext, rfl⟩
    · exact absurd rfl hini
    · exact absurd rfl hini
  · rintro ⟨htext, rfl⟩
    exact .illegible (.undecodable htext)

theorem breaks_readIni_map_iff {f : List Text → β} (disk : Disk) (path : Text)
    (failure : Failure) :
    Breaks (readIni disk path >>= fun sections => pure (f sections)) failure ↔
      disk.text? path = none ∧ failure = .undecodable := by
  rw [breaks_bind_iff, breaks_readIni_iff, or_iff_left]
  rintro ⟨sections, -, hbreaks⟩
  exact not_breaks_ok (f sections) failure hbreaks

theorem breaks_applies_iff (disk : Disk) (path : Text) (candidate : Candidate)
    (failure : Failure) :
    Breaks (candidate.applies disk path) failure ↔ Obscures disk path candidate failure := by
  cases candidate with
  | plain name =>
      rw [obscures_ini_iff (by simp)]
      exact breaks_readIni_map_iff disk path failure
  | setupFile =>
      rw [obscures_ini_iff (by simp)]
      exact breaks_readIni_map_iff disk path failure
  | projectFile =>
      unfold Candidate.applies
      rw [breaks_bind_iff, breaks_readToml_iff]
      simp only [breaks_names_iff]
      rw [exists_readToml_iff disk path fun tools =>
        isSearchable tools = false ∧ failure = .notSearchable]
      constructor
      · rintro (h | ⟨tools, htools, hsearch, rfl⟩)
        · exact .illegible h
        · exact .notSearchable htools hsearch
      · rintro (h | ⟨htools, hsearch⟩)
        · exact .inl h
        · exact .inr ⟨_, htools, hsearch, rfl⟩

theorem breaks_probe_iff (disk : Disk) (test : Disk → Text → Bool) (path : Text)
    (failure : Failure) :
    Breaks (disk.probe test path) failure ↔
      disk.isTooLong path = true ∧ failure = .pathTooLong path := by
  unfold Disk.probe
  cases disk.isTooLong path <;> simp [not_breaks_ok, breaks_error_iff, isConfigurationFault]

/-- What stands in the way at a candidate: its path cannot be looked up, or the file is there and
it cannot be told whether it configures the compiler. -/
inductive Stops (disk : Disk) (root : Text) (candidate : Candidate) : Failure → Prop
  | tooLong (h : disk.isTooLong (Path.within root candidate.name) = true) :
      Stops disk root candidate (.pathTooLong (Path.within root candidate.name))
  | obscured {failure : Failure}
      (hfile : disk.probeFile (Path.within root candidate.name) = .ok true)
      (h : Obscures disk (Path.within root candidate.name) candidate failure) :
      Stops disk root candidate failure

/-- The search goes on behind a candidate: there is no such file, or it does not configure the
compiler. -/
def Passes (disk : Disk) (root : Text) (candidate : Candidate) : Prop :=
  disk.probeFile (Path.within root candidate.name) = .ok false ∨
    disk.probeFile (Path.within root candidate.name) = .ok true ∧
      candidate.applies disk (Path.within root candidate.name) = .ok false

theorem firstApplying_cons (disk : Disk) (root : Text) (candidate : Candidate)
    (rest : List Candidate) :
    firstApplying disk root (candidate :: rest) =
      disk.probeFile (Path.within root candidate.name) >>= fun isFile =>
        if isFile then
          candidate.applies disk (Path.within root candidate.name) >>= fun applies =>
            if applies then .ok (some (Path.within root candidate.name))
            else firstApplying disk root rest
        else firstApplying disk root rest := rfl

theorem breaks_firstApplying_cons_iff (disk : Disk) (root : Text) (candidate : Candidate)
    (rest : List Candidate) (failure : Failure) :
    Breaks (firstApplying disk root (candidate :: rest)) failure ↔
      Stops disk root candidate failure ∨
        Passes disk root candidate ∧ Breaks (firstApplying disk root rest) failure := by
  rw [firstApplying_cons, breaks_bind_iff, Disk.probeFile, breaks_probe_iff]
  constructor
  · rintro (⟨hlong, rfl⟩ | ⟨isFile, hfile, hbreaks⟩)
    · exact .inl (.tooLong hlong)
    · cases isFile with
      | false => exact .inr ⟨.inl hfile, hbreaks⟩
      | true =>
          rw [if_pos rfl, breaks_bind_iff, breaks_applies_iff] at hbreaks
          rcases hbreaks with hobscured | ⟨applies, happlies, hbreaks⟩
          · exact .inl (.obscured hfile hobscured)
          · cases applies with
            | false => exact .inr ⟨.inr ⟨hfile, happlies⟩, hbreaks⟩
            | true => exact absurd hbreaks (not_breaks_ok _ failure)
  · rintro ((hlong | ⟨hfile, hobscured⟩) | ⟨hfile | ⟨hfile, happlies⟩, hbreaks⟩)
    · exact .inl ⟨hlong, rfl⟩
    · refine .inr ⟨true, hfile, ?_⟩
      rw [if_pos rfl, breaks_bind_iff, breaks_applies_iff]
      exact .inl hobscured
    · exact .inr ⟨false, hfile, hbreaks⟩
    · refine .inr ⟨true, hfile, ?_⟩
      rw [if_pos rfl, breaks_bind_iff]
      exact .inr ⟨false, happlies, hbreaks⟩

theorem breaks_firstApplying_iff (disk : Disk) (root : Text) (search : List Candidate)
    (failure : Failure) :
    Breaks (firstApplying disk root search) failure ↔
      ∃ before candidate after, search = before ++ candidate :: after ∧
        (∀ c ∈ before, Passes disk root c) ∧ Stops disk root candidate failure := by
  induction search with
  | nil => simp [firstApplying, not_breaks_ok]
  | cons candidate rest ih =>
      rw [breaks_firstApplying_cons_iff, ih]
      constructor
      · rintro (hstops | ⟨hpasses, before, c, after, rfl, hbefore, hstops⟩)
        · exact ⟨[], candidate, rest, rfl, by simp, hstops⟩
        · refine ⟨candidate :: before, c, after, rfl, ?_, hstops⟩
          exact List.forall_mem_cons.mpr ⟨hpasses, hbefore⟩
      · rintro ⟨before, c, after, heq, hbefore, hstops⟩
        cases before with
        | nil =>
            obtain ⟨rfl, rfl⟩ := List.cons_eq_cons.mp heq
            exact .inl hstops
        | cons first before =>
            obtain ⟨rfl, rfl⟩ := List.cons_eq_cons.mp heq
            obtain ⟨hpasses, hbefore⟩ := List.forall_mem_cons.mp hbefore
            exact .inr ⟨hpasses, before, c, after, rfl, hbefore, hstops⟩

/-- Why the settings of the tool cannot be read. -/
inductive Unsettles (disk : Disk) (path : Text) : Failure → Prop
  | tooLong (h : disk.isTooLong path = true) : Unsettles disk path (.pathTooLong path)
  | illegible {failure : Failure} (hfile : disk.probeFile path = .ok true)
      (h : Illegible disk path .projectFile failure) : Unsettles disk path failure
  | notATable {tools : Datum} (hfile : disk.probeFile path = .ok true)
      (ht : HasTools disk path tools) (h : isTable tools = false) : Unsettles disk path .notATable

theorem breaks_tableField_iff (name : Text) (tools : Datum) (failure : Failure) :
    Breaks (tableField name tools) failure ↔ isTable tools = false ∧ failure = .notATable := by
  cases tools <;>
    simp [tableField, isTable, not_breaks_ok, breaks_error_iff, isConfigurationFault]

theorem not_breaks_read (data : Datum) (path : Text) (failure : Failure) :
    ¬ Breaks (match Settings.read data with
      | .valid settings => .ok settings
      | .problems problems => .error (.fault (.invalidSettings
          (Problem.summary "tool.fastcheck" problems) path))) failure := by
  cases Settings.read data with
  | valid settings => exact not_breaks_ok settings failure
  | problems problems => exact not_breaks_fault rfl failure

theorem breaks_loadSettings_iff (disk : Disk) (root : Text) (failure : Failure) :
    Breaks (loadSettings disk root) failure ↔
      Unsettles disk (Path.within root Candidate.projectFile.name) failure := by
  unfold loadSettings
  dsimp only
  generalize Path.within root Candidate.projectFile.name = path
  have hentry := exists_readToml_iff disk path fun tools =>
    isTable tools = false ∧ failure = .notATable
  have hrest : ∀ fields, Breaks (tableField "fastcheck" (toolEntry fields) >>= fun data =>
      match Settings.read data with
      | .valid settings => .ok settings
      | .problems problems => .error (.fault (.invalidSettings
          (Problem.summary "tool.fastcheck" problems) path))) failure ↔
        isTable (toolEntry fields) = false ∧ failure = .notATable := by
    intro fields
    rw [breaks_bind_iff, breaks_tableField_iff, or_iff_left]
    rintro ⟨data, -, hbreaks⟩
    exact not_breaks_read data path failure hbreaks
  rw [breaks_bind_iff, Disk.probeFile, breaks_probe_iff]
  constructor
  · rintro (⟨hlong, rfl⟩ | ⟨isFile, hfile, hbreaks⟩)
    · exact .tooLong hlong
    · cases isFile with
      | false => exact absurd hbreaks (not_breaks_ok _ failure)
      | true =>
          rw [if_neg (by simp), breaks_bind_iff, breaks_readToml_iff] at hbreaks
          rcases hbreaks with hillegible | ⟨fields, hread, hbreaks⟩
          · exact .illegible hfile hillegible
          · obtain ⟨tools, htools, htable, rfl⟩ :=
              hentry.mp ⟨fields, hread, (hrest fields).mp hbreaks⟩
            exact .notATable hfile htools htable
  · rintro (hlong | ⟨hfile, hillegible⟩ | ⟨hfile, htools, htable⟩)
    · exact .inl ⟨hlong, rfl⟩
    · refine .inr ⟨true, hfile, ?_⟩
      rw [if_neg (by simp), breaks_bind_iff, breaks_readToml_iff]
      exact .inl hillegible
    · refine .inr ⟨true, hfile, ?_⟩
      rw [if_neg (by simp), breaks_bind_iff]
      obtain ⟨fields, hread, hentry⟩ := hentry.mpr ⟨_, htools, htable, rfl⟩
      exact .inr ⟨fields, hread, (hrest fields).mpr hentry⟩

/-- The ways in which loading ends with another failure than a fault of the configuration. -/
inductive Surprises (disk : Disk) (path : Text) : Failure → Prop
  | nulInPath (h : '\x00' ∈ path) : Surprises disk path .nulInPath
  | linkCircle {stuck : Text} (hplain : '\x00' ∉ path) (h : disk.resolve path = .error stuck) :
      Surprises disk path (.linkCircle stuck)
  | rootTooLong {root : Text} (hroot : resolve disk path = .ok root)
      (h : disk.isTooLong root = true) : Surprises disk path (.pathTooLong root)
  | search {root : Text} {before after : List Candidate} {candidate : Candidate}
      {failure : Failure} (hroot : resolve disk path = .ok root)
      (hdirectory : disk.probeDirectory root = .ok true)
      (hcandidate : candidates = before ++ candidate :: after)
      (hbefore : ∀ c ∈ before, Passes disk root c) (h : Stops disk root candidate failure) :
      Surprises disk path failure
  | settings {root file : Text} {failure : Failure} (hroot : resolve disk path = .ok root)
      (hdirectory : disk.probeDirectory root = .ok true)
      (hfound : findCompilerConfig disk root = .ok (some file))
      (h : Unsettles disk (Path.within root Candidate.projectFile.name) failure) :
      Surprises disk path failure

theorem breaks_resolve_iff (disk : Disk) (path : Text) (failure : Failure) :
    Breaks (resolve disk path) failure ↔
      ('\x00' ∈ path ∧ failure = .nulInPath) ∨
        '\x00' ∉ path ∧
          ∃ stuck, disk.resolve path = .error stuck ∧ failure = .linkCircle stuck := by
  unfold resolve
  by_cases hnul : '\x00' ∈ path
  · simp [hnul, breaks_error_iff, isConfigurationFault]
  · cases disk.resolve path <;> simp [hnul, not_breaks_ok, breaks_error_iff, isConfigurationFault]

/-- What is left of loading once the file that configures the compiler was looked for. -/
def configure (disk : Disk) (root : Text) : Option Text → Except Failure (Config × Entry)
  | none => .error (.fault (.noCompilerConfig root))
  | some compilerConfig => (loadSettings disk root).map fun settings =>
    ({ root, compilerConfig, settings }, ⟨.config, .debug,
      "Using " ++ Path.fileName compilerConfig ++ " for ".toList ++ root⟩)

theorem load_eq (disk : Disk) (path : Text) :
    load disk path = resolve disk path >>= fun root =>
      disk.probeDirectory root >>= fun isDirectory =>
        if isDirectory then findCompilerConfig disk root >>= configure disk root
        else .error (.fault (.notADirectory root)) := by
  unfold load
  rcases resolve disk path with failure | root
  · rfl
  · change (disk.probeDirectory root >>= _) = (disk.probeDirectory root >>= _)
    rcases disk.probeDirectory root with failure | isDirectory
    · rfl
    · cases isDirectory with
      | false => rfl
      | true =>
          change (findCompilerConfig disk root >>= _) = (findCompilerConfig disk root >>= _)
          rcases findCompilerConfig disk root with failure | _ | file <;> rfl

theorem breaks_configure_iff (disk : Disk) (root : Text) (found : Option Text)
    (failure : Failure) :
    Breaks (configure disk root found) failure ↔
      found.isSome ∧ Unsettles disk (Path.within root Candidate.projectFile.name) failure := by
  cases found with
  | none => exact iff_of_false (not_breaks_fault rfl failure) (by simp)
  | some file => simp [configure, breaks_map_iff, breaks_loadSettings_iff]

theorem breaks_load_iff (disk : Disk) (path : Text) (failure : Failure) :
    Breaks (load disk path) failure ↔ Surprises disk path failure := by
  rw [load_eq, breaks_bind_iff, breaks_resolve_iff]
  simp only [breaks_bind_iff, Disk.probeDirectory, breaks_probe_iff]
  constructor
  · rintro ((⟨hnul, rfl⟩ | ⟨hplain, stuck, hstuck, rfl⟩) |
      ⟨root, hroot, ⟨hlong, rfl⟩ | ⟨isDirectory, hdirectory, hbreaks⟩⟩)
    · exact .nulInPath hnul
    · exact .linkCircle hplain hstuck
    · exact .rootTooLong hroot hlong
    · cases isDirectory with
      | false => exact absurd hbreaks (not_breaks_fault rfl failure)
      | true =>
          rw [if_pos rfl, breaks_bind_iff] at hbreaks
          rcases hbreaks with hsearch | ⟨found, hfound, hbreaks⟩
          · obtain ⟨before, candidate, after, hcandidate, hbefore, hstops⟩ :=
              (breaks_firstApplying_iff disk root candidates failure).mp hsearch
            exact .search hroot hdirectory hcandidate hbefore hstops
          · obtain ⟨hsome, hunsettles⟩ := (breaks_configure_iff disk root found failure).mp hbreaks
            obtain ⟨file, rfl⟩ := Option.isSome_iff_exists.mp hsome
            exact .settings hroot hdirectory hfound hunsettles
  · rintro (hnul | ⟨hplain, hstuck⟩ | ⟨hroot, hlong⟩ |
      ⟨hroot, hdirectory, hcandidate, hbefore, hstops⟩ |
      ⟨hroot, hdirectory, hfound, hunsettles⟩)
    · exact .inl (.inl ⟨hnul, rfl⟩)
    · exact .inl (.inr ⟨hplain, _, hstuck, rfl⟩)
    · exact .inr ⟨_, hroot, .inl ⟨hlong, rfl⟩⟩
    · refine .inr ⟨_, hroot, .inr ⟨true, hdirectory, ?_⟩⟩
      rw [if_pos rfl, breaks_bind_iff]
      exact .inl ((breaks_firstApplying_iff disk _ candidates failure).mpr
        ⟨_, _, _, hcandidate, hbefore, hstops⟩)
    · refine .inr ⟨_, hroot, .inr ⟨true, hdirectory, ?_⟩⟩
      rw [if_pos rfl, breaks_bind_iff]
      exact .inr ⟨_, hfound, (breaks_configure_iff disk _ _ failure).mpr ⟨rfl, hunsettles⟩⟩

/-- The files that may configure the compiler can be looked up and are texts where they exist; the
project file has no number that is too long, and its entry for tools is a table. -/
structure Legible (disk : Disk) (root : Text) : Prop where
  short : ∀ c ∈ candidates, disk.isTooLong (Path.within root c.name) = false
  text : ∀ c ∈ candidates, disk.probeFile (Path.within root c.name) = .ok true →
    disk.text? (Path.within root c.name) ≠ none
  digits {t : Text} {count : Nat}
    (ht : disk.text? (Path.within root Candidate.projectFile.name) = some t) :
    Toml.read t ≠ .error (.tooManyDigits count)
  tools {d : Datum} (h : HasTools disk (Path.within root Candidate.projectFile.name) d) :
    isTable d = true

theorem Legible.not_illegible {disk : Disk} {root : Text} (h : Legible disk root) {c : Candidate}
    (hc : c ∈ candidates) (hfile : disk.probeFile (Path.within root c.name) = .ok true)
    (failure : Failure) : ¬ Illegible disk (Path.within root c.name) c failure := by
  rintro (htext | ⟨ht, hread⟩)
  · exact h.text c hc hfile htext
  · exact h.digits ht hread

theorem isSearchable_of_isTable {d : Datum} (h : isTable d = true) : isSearchable d = true := by
  cases d <;> simp [isTable, isSearchable] at h ⊢

theorem Legible.not_stops {disk : Disk} {root : Text} (h : Legible disk root) {c : Candidate}
    (hc : c ∈ candidates) (failure : Failure) : ¬ Stops disk root c failure := by
  rintro (hlong | ⟨hfile, hillegible | ⟨htools, hsearch⟩⟩)
  · simp [h.short c hc] at hlong
  · exact h.not_illegible hc hfile failure hillegible
  · simp [isSearchable_of_isTable (h.tools htools)] at hsearch

theorem Legible.not_unsettles {disk : Disk} {root : Text} (h : Legible disk root)
    (failure : Failure) :
    ¬ Unsettles disk (Path.within root Candidate.projectFile.name) failure := by
  have hproject : Candidate.projectFile ∈ candidates := by decide
  rintro (hlong | ⟨hfile, hillegible⟩ | ⟨hfile, htools, htable⟩)
  · simp [h.short _ hproject] at hlong
  · exact h.not_illegible hproject hfile failure hillegible
  · simp [h.tools htools] at htable

theorem Legible.not_surprises {disk : Disk} {path root : Text} (h : Legible disk root)
    (hroot : resolve disk path = .ok root) (hshort : disk.isTooLong root = false)
    (failure : Failure) : ¬ Surprises disk path failure := by
  have hsame : ∀ {root' : Text}, resolve disk path = .ok root' → root = root' :=
    fun hroot' => Except.ok.inj (hroot.symm.trans hroot')
  rintro (hnul | ⟨hplain, hstuck⟩ | ⟨hroot', hlong⟩ | ⟨hroot', -, hcandidate, -, hstops⟩ |
    ⟨hroot', -, -, hunsettles⟩)
  · simp [resolve, hnul] at hroot
  · simp [resolve, hplain, hstuck] at hroot
  · obtain rfl := hsame hroot'
    simp [hshort] at hlong
  · obtain rfl := hsame hroot'
    exact h.not_stops (by simp [hcandidate]) failure hstops
  · obtain rfl := hsame hroot'
    exact h.not_unsettles failure hunsettles

/-- Loading gives a configuration or ends with a fault of the configuration, exactly if nothing
unforeseen happens; and what happens then is what loading ends with. Nothing unforeseen happens
where the files are legible. -/
theorem ok_or_refuses_load_iff (disk : Disk) (path : Text) :
    ((∃ config, load disk path = .ok config) ∨ Refuses (load disk path) ↔
      ∀ failure, ¬ Surprises disk path failure) ∧
    (∀ failure, Surprises disk path failure →
      load disk path = .error failure ∧ isConfigurationFault failure = false) ∧
    ∀ root, resolve disk path = .ok root → disk.isTooLong root = false → Legible disk root →
      (∃ config, load disk path = .ok config) ∨ Refuses (load disk path) := by
  have hiff : (∃ config, load disk path = .ok config) ∨ Refuses (load disk path) ↔
      ∀ failure, ¬ Surprises disk path failure := by
    rw [ok_or_refuses_iff]
    exact forall_congr' fun failure => not_congr (breaks_load_iff disk path failure)
  refine ⟨hiff, ?_, ?_⟩
  · intro failure hsurprise
    exact (breaks_load_iff disk path failure).mpr hsurprise
  · intro root hroot hshort hlegible
    exact hiff.mpr (hlegible.not_surprises hroot hshort)

def holding (files : List (String × List UInt8)) : Disk :=
  ⟨files.map fun (name, bytes) => (name.toList, .file ⟨bytes.toArray⟩ 0)⟩

/-- A project whose setup file is an open bracket. -/
def unclosed : Disk := holding [("setup.cfg", [0x5b])]

theorem ok_or_refuses_load_iff_unclosed :
    resolve unclosed ['/'] = .ok ['/'] ∧ unclosed.isTooLong ['/'] = false ∧
      Legible unclosed ['/'] ∧ Refuses (load unclosed ['/']) := by
  have hlegible : Legible unclosed ['/'] := {
    short := by decide
    text := by
      intro c hc hfile htext
      simp only [candidates, List.mem_cons, List.not_mem_nil, or_false] at hc
      -- Only the setup file is there.
      rcases hc with rfl | rfl | rfl | rfl
      · cases hfile
      · cases hfile
      · cases hfile
      · cases htext
    digits := by
      intro t count ht
      cases ht
    tools := by
      rintro d ⟨t, -, ht, -⟩
      cases ht }
  refine ⟨rfl, rfl, hlegible, ?_⟩
  rcases (ok_or_refuses_load_iff unclosed ['/']).2.2 ['/'] rfl rfl hlegible with ⟨config, hok⟩ | h
  · cases hok
  · exact h

/-- The bytes of `tool=1`. -/
def numberedTools : List UInt8 := [0x74, 0x6f, 0x6f, 0x6c, 0x3d, 0x31]

/-- None of the three configurations is refused: a file that is no text, and a number for tools
when the compiler's configuration is looked for and when the settings are. -/
theorem not_refuses_load_garbled :
    Breaks (load (holding [("mypy.ini", [0xff])]) ['/']) .undecodable ∧
    Breaks (load (holding [("pyproject.toml", numberedTools)]) ['/']) .notSearchable ∧
    Breaks (load (holding [("mypy.ini", []), ("pyproject.toml", numberedTools)]) ['/'])
      .notATable :=
  ⟨⟨rfl, rfl⟩, ⟨rfl, rfl⟩, rfl, rfl⟩

end Recheck.Proofs.ConfigurationFaults
