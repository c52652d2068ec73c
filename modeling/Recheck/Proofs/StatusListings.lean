import Recheck.Change.Resolver
import Recheck.Proofs.Distinct
import Recheck.Proofs.ProgramReuse

/-!
Reading a status listing. The entries of a listing are told apart by NUL, and an earlier path is
passed over with the entry that it belongs to, whatever it looks like. So the paths that are read
are those of the entries, and the changed files are where these paths lead to.
-/

namespace Recheck.Proofs.StatusListings

open Recheck.Change
open Recheck.Proofs.Activities
open Recheck.Proofs.Distinct

variable {σ : Type}

/-- An entry that is told apart from the next one: no NUL stands in its records, and its path is
not empty. -/
structure Recorded (e : StatusEntry) : Prop where
  status : '\x00' ∉ e.status
  path_ne : e.path ≠ []
  path : '\x00' ∉ e.path
  earlier : hasEarlierPath e.status = true → '\x00' ∉ e.earlier

theorem nul_notMem_records {e : StatusEntry} (h : Recorded e) : ∀ r ∈ e.records, '\x00' ∉ r := by
  intro r hr
  unfold StatusEntry.records at hr
  rcases List.mem_cons.mp hr with rfl | hr
  · simpa [List.mem_append, not_or] using ⟨h.status, h.path⟩
  · split at hr
    · next hearlier =>
        obtain rfl := List.mem_singleton.mp hr
        exact h.earlier hearlier
    · cases hr

theorem splitOn_records {records : List Text} (h : ∀ r ∈ records, '\x00' ∉ r) :
    List.splitOn '\x00' (records.flatMap (· ++ ['\x00'])) = records ++ [[]] := by
  induction records with
  | nil => rfl
  | cons r records ih =>
      obtain ⟨hr, hrecords⟩ := List.forall_mem_cons.mp h
      have hplain : ∀ c ∈ r, (c == '\x00') = false := fun c hc =>
        beq_eq_false_iff_ne.mpr fun heq => hr (heq ▸ hc)
      rw [List.flatMap_cons, List.append_assoc, List.singleton_append, List.splitOn_eq_splitOnP,
        List.splitOnP_append_cons_of_forall_mem hplain _ (by simp), ← List.splitOn_eq_splitOnP,
        ih hrecords, List.cons_append]

theorem recordPaths_records {e : StatusEntry} (h : e.path ≠ []) (records : List Text) :
    recordPaths (e.records ++ records) = e.path :: recordPaths records := by
  have hlength : ¬ (e.status ++ ' ' :: e.path).length < 4 := by
    have hpos := List.length_pos_iff.mpr h
    simp only [StatusEntry.status, List.length_append, List.length_cons, List.length_nil]
    omega
  have htake : (e.status ++ ' ' :: e.path).take 2 = e.status := rfl
  have hdrop : (e.status ++ ' ' :: e.path).drop 3 = e.path := rfl
  unfold StatusEntry.records
  split
  · next hearlier =>
      rw [List.cons_append, recordPaths.eq_def]
      simp only [if_neg hlength, htake, if_pos hearlier, hdrop]
      rfl
  · next hearlier =>
      rw [List.cons_append, recordPaths.eq_def]
      simp only [if_neg hlength, htake, if_neg hearlier, hdrop]
      rfl

theorem recordPaths_listed {entries : List StatusEntry} (h : ∀ e ∈ entries, Recorded e) :
    recordPaths (entries.flatMap StatusEntry.records ++ [[]]) = entries.map (·.path) := by
  induction entries with
  | nil => rfl
  | cons e entries ih =>
      obtain ⟨he, hentries⟩ := List.forall_mem_cons.mp h
      rw [List.flatMap_cons, List.append_assoc, recordPaths_records he.path_ne, ih hentries,
        List.map_cons]

theorem paths_listing {entries : List StatusEntry} (h : ∀ e ∈ entries, Recorded e) :
    paths (StatusEntry.listing entries) = (entries.map (·.path)).eraseDups := by
  have hrecords : ∀ r ∈ entries.flatMap StatusEntry.records, '\x00' ∉ r := by
    intro r hr
    obtain ⟨e, he, hr⟩ := List.mem_flatMap.mp hr
    exact nul_notMem_records (h e he) r hr
  rw [paths, StatusEntry.listing, splitOn_records hrecords, recordPaths_listed h]

/-- The entries whose path ends in one of the extensions. -/
def chosen (extensions : List Text) (entries : List StatusEntry) : List StatusEntry :=
  entries.filter fun e => ∃ extension ∈ extensions, extension <:+ e.path

/-- Where the path of an entry leads to from the directory `top`. -/
def fileOf (disk : Disk) (top : Text) (e : StatusEntry) : Except Failure Text :=
  Config.resolve disk (Path.within top e.path)

/-- Version control names the directory `top`, and its status command ends well and writes the
listing of the entries. -/
def Lists (p : Project σ) (disk : Disk) (s : Session σ) (top : Text)
    (entries : List StatusEntry) : Prop :=
  ∃ named s₁ complaints,
    outcome (ask p ["rev-parse", "--show-toplevel"]) s = (.ok named, s₁) ∧
    Config.resolve disk (Path.join p.directory (Text.trim named)) = .ok top ∧
    (p.tools.versionControl p.root
      ["status", "--porcelain", "-z", "--untracked-files=all", "--", p.root] s₁.world).1 =
      (CommandResult.ended 0 (Text.toBytes (StatusEntry.listing entries))
        (Text.toBytes complaints)).reply

theorem reply_ended (written complaints : Text) :
    (CommandResult.ended 0 (Text.toBytes written) (Text.toBytes complaints)).reply =
      .output (Text.unifyNewlines written) := by
  simp [CommandResult.reply, Text.ofBytes?_toBytes]

theorem outcome_ask_of_output {p : Project σ} {arguments : List Text} {s : Session σ} {text : Text}
    (h : (p.tools.versionControl p.root arguments s.world).1 = .output text) :
    ∃ s', outcome (ask p arguments) s = (.ok text, s') := by
  refine ⟨{ s with world := (p.tools.versionControl p.root arguments s.world).2 }, ?_⟩
  rw [ask, outcome_bind, outcome_ask, h]
  rfl

theorem withExtension_listing {entries : List StatusEntry} (h : ∀ e ∈ entries, Recorded e)
    (extensions : List Text) :
    withExtension extensions (paths (StatusEntry.listing entries)) =
      ((chosen extensions entries).map (·.path)).eraseDups := by
  have hchosen : chosen extensions entries = entries.filter fun e =>
      extensions.any fun extension => extension.isSuffixOf e.path := by
    refine List.filter_congr fun e _ => ?_
    rw [Bool.eq_iff_iff]
    simp
  rw [paths_listing h, withExtension, filter_eraseDups, List.filter_map, hchosen]
  rfl

theorem outcome_changedFiles {p : Project σ} {disk : Disk} {s : Session σ} {top : Text}
    {entries : List StatusEntry} (hlists : Lists p disk s top entries)
    (h : ∀ e ∈ entries, Recorded e) (hreturn : '\r' ∉ StatusEntry.listing entries)
    (extensions : List Text) :
    (outcome (changedFiles p extensions disk) s).1 =
      (resolveAll disk top ((chosen extensions entries).map (·.path)).eraseDups).map
        List.eraseDups := by
  obtain ⟨named, s₁, complaints, htop, hresolve, hwritten⟩ := hlists
  rw [reply_ended, Text.unifyNewlines_of_not_mem hreturn] at hwritten
  obtain ⟨s₂, hlisting⟩ := outcome_ask_of_output hwritten
  unfold changedFiles
  rw [outcome_bind_of_ok htop, hresolve, outcome_bind_of_ok (outcome_lift _ s₁),
    outcome_bind_of_ok hlisting, withExtension_listing h, outcome_bind, outcome_lift]
  cases resolveAll disk top ((chosen extensions entries).map (·.path)).eraseDups with
  | error failure => rfl
  | ok files => rfl

theorem resolveAll_places {disk : Disk} {top : Text} {entries : List StatusEntry}
    {place : StatusEntry → Text} (h : ∀ e ∈ entries, fileOf disk top e = .ok (place e)) :
    (resolveAll disk top (entries.map (·.path)).eraseDups).map List.eraseDups =
      .ok (entries.map place).eraseDups := by
  -- Entries with one path lead to one file, so the place can be told from the path.
  let target (path : Text) : Text := ((Config.resolve disk (Path.within top path)).toOption).getD []
  have htarget : ∀ e ∈ entries, target e.path = place e := by
    intro e he
    have hplace : Config.resolve disk (Path.within top e.path) = .ok (place e) := h e he
    simp [target, hplace, Except.toOption]
  have hresolve : ∀ path ∈ (entries.map (·.path)).eraseDups,
      Config.resolve disk (Path.within top path) = .ok (target path) := by
    intro path hpath
    obtain ⟨e, he, rfl⟩ := List.mem_map.mp (List.mem_eraseDups.mp hpath)
    rw [htarget e he]
    exact h e he
  rw [resolveAll, mapM_eq_ok hresolve]
  change Except.ok _ = _
  rw [eraseDups_map_eraseDups, List.map_map]
  congr 2
  exact List.map_congr_left htarget

theorem resolveAll_fails {disk : Disk} {top : Text} {before after : List StatusEntry}
    {e : StatusEntry} {failure : Failure}
    (hbefore : ∀ b ∈ before, ∃ file, fileOf disk top b = .ok file)
    (he : fileOf disk top e = .error failure) :
    resolveAll disk top ((before ++ e :: after).map (·.path)).eraseDups = .error failure := by
  have hnew : e.path ∉ before.map (·.path) := by
    intro hmem
    obtain ⟨b, hb, hpath⟩ := List.mem_map.mp hmem
    obtain ⟨file, hfile⟩ := hbefore b hb
    rw [fileOf, hpath] at hfile
    cases he.symm.trans hfile
  have hsplit : ∃ rest, ((before ++ e :: after).map (·.path)).eraseDups =
      (before.map (·.path)).eraseDups ++ e.path :: rest := by
    rw [List.map_append, List.map_cons, List.eraseDups_append, List.removeAll,
      List.filter_cons_of_pos (by simpa using hnew), List.eraseDups_cons]
    exact ⟨_, rfl⟩
  obtain ⟨rest, hrest⟩ := hsplit
  rw [hrest, resolveAll]
  refine mapM_eq_error (fun path hpath => ?_) he
  obtain ⟨b, hb, rfl⟩ := List.mem_map.mp (List.mem_eraseDups.mp hpath)
  exact hbefore b hb

/-- The paths of a listing are those of its entries, each once, and an earlier path is among them
only as the path of an entry. Where no carriage return stands in the listing, the changed files
are where the chosen entries lead to, each once, if all of them lead somewhere; else the first
that leads nowhere is why none are known. -/
theorem changedFiles_of_listing (entries : List StatusEntry) (h : ∀ e ∈ entries, Recorded e) :
    paths (StatusEntry.listing entries) = (entries.map (·.path)).eraseDups ∧
      (∀ e ∈ entries, e.earlier ∈ paths (StatusEntry.listing entries) →
        ∃ e' ∈ entries, e'.path = e.earlier) ∧
      ∀ (p : Project σ) (disk : Disk) (s : Session σ) (top : Text) (extensions : List Text),
        Lists p disk s top entries → '\r' ∉ StatusEntry.listing entries →
          (∀ place : StatusEntry → Text,
            (∀ e ∈ chosen extensions entries, fileOf disk top e = .ok (place e)) →
              (outcome (changedFiles p extensions disk) s).1 =
                .ok ((chosen extensions entries).map place).eraseDups) ∧
          ∀ before e after failure, chosen extensions entries = before ++ e :: after →
            (∀ b ∈ before, ∃ file, fileOf disk top b = .ok file) →
              fileOf disk top e = .error failure →
                (outcome (changedFiles p extensions disk) s).1 = .error failure := by
  refine ⟨paths_listing h, fun e _ hmem => ?_, fun p disk s top extensions hlists hreturn =>
    ⟨?_, ?_⟩⟩
  · rw [paths_listing h, List.mem_eraseDups] at hmem
    exact List.mem_map.mp hmem
  · intro place hplace
    rw [outcome_changedFiles hlists h hreturn, resolveAll_places hplace]
  · intro before e after failure hsplit hbefore he
    rw [outcome_changedFiles hlists h hreturn, hsplit, resolveAll_fails hbefore he]
    rfl

open ProgramReuse (pair)

/-- A project at the root of the disk whose version control lists the entries. -/
def listing (entries : List StatusEntry) : Project Unit :=
  { pair with
    tools := { pair.tools with
      versionControl := fun _ arguments w =>
        let written := if arguments.length = 2 then ['/', '\n'] else StatusEntry.listing entries
        ((CommandResult.ended 0 (Text.toBytes written) (Text.toBytes [])).reply, w) } }

def pyName (c : Char) : Text := [c, '.', 'p', 'y']

/-- A renamed file that changed once more, with an earlier path that looks like a record, a file
that is no source, and a link to the first file. -/
def moves : List StatusEntry :=
  [⟨'R', ' ', pyName 'b', ['R', ' ', ' '] ++ pyName 'c'⟩, ⟨' ', 'M', pyName 'b', []⟩,
    ⟨'?', '?', ['n'], []⟩, ⟨'?', '?', pyName 'l', []⟩]

def movesDisk : Disk := ⟨[(pyName 'b', .file ⟨#[]⟩ 0), (pyName 'l', .link (pyName 'b'))]⟩

theorem lists_listing {disk : Disk} {top : Text} (htop : Config.resolve disk ['/'] = .ok top)
    (entries : List StatusEntry) (s : Session Unit) :
    Lists (listing entries) disk s top entries := by
  refine ⟨['/', '\n'], s, [], ?_, htop, rfl⟩
  have hreply : ((listing entries).tools.versionControl (listing entries).root
      ["rev-parse", "--show-toplevel"] s.world).1 = .output ['/', '\n'] := by
    simp [listing, reply_ended, Text.unifyNewlines]
  rw [ask, outcome_bind, outcome_ask, hreply]
  rfl

theorem changedFiles_of_listing_moves :
    (∀ e ∈ moves, Recorded e) ∧ Lists (listing moves) movesDisk { world := () } ['/'] moves ∧
      '\r' ∉ StatusEntry.listing moves ∧
      paths (StatusEntry.listing moves) = [pyName 'b', ['n'], pyName 'l'] ∧
      (outcome (changedFiles (listing moves) [['.', 'p', 'y']] movesDisk) { world := () }).1 =
        .ok ['/' :: pyName 'b'] := by
  have hrecorded : ∀ e ∈ moves, Recorded e := by
    intro e he
    simp only [moves, List.mem_cons, List.not_mem_nil, or_false] at he
    rcases he with rfl | rfl | rfl | rfl <;> constructor <;> decide
  have hlists : Lists (listing moves) movesDisk { world := () } ['/'] moves :=
    lists_listing (by decide +kernel) moves _
  obtain ⟨hpaths, -, hfiles⟩ := changedFiles_of_listing (σ := Unit) moves hrecorded
  have hplace : ∀ e ∈ chosen [['.', 'p', 'y']] moves,
      fileOf movesDisk ['/'] e = .ok ('/' :: pyName 'b') := by decide +kernel
  have hreturn : '\r' ∉ StatusEntry.listing moves := by decide
  refine ⟨hrecorded, hlists, hreturn, hpaths.trans (by decide), ?_⟩
  exact ((hfiles _ _ _ _ _ hlists hreturn).1 (fun _ => '/' :: pyName 'b') hplace).trans (by decide)

/-- One new source file, with a carriage return in its name. -/
def returned : List StatusEntry := [⟨'?', '?', ['a', '\r', 'b', '.', 'p', 'y'], []⟩]

/-- A NUL in a status ends the record early. A link that leads to itself leads to no file, and then
no changed files are known. Of a name with a carriage return another one is read. -/
theorem not_changedFiles_looping :
    paths (StatusEntry.listing [⟨'\x00', '\x00', ['a', 'b'], []⟩]) = [] ∧
      (∃ (disk : Disk) (entries : List StatusEntry), (∀ e ∈ entries, Recorded e) ∧
        Lists (listing entries) disk { world := () } ['/'] entries ∧
        chosen [['.', 'p', 'y']] entries = entries ∧
        (outcome (changedFiles (listing entries) [['.', 'p', 'y']] disk) { world := () }).1 =
          .error (.linkCircle ('/' :: pyName 'l'))) ∧
      (∀ e ∈ returned, Recorded e) ∧
      Lists (listing returned) ⟨[]⟩ { world := () } ['/'] returned ∧
      chosen [['.', 'p', 'y']] returned = returned ∧
      (∀ e ∈ returned, fileOf ⟨[]⟩ ['/'] e = .ok ('/' :: e.path)) ∧
      (outcome (changedFiles (listing returned) [['.', 'p', 'y']] ⟨[]⟩) { world := () }).1 =
        .ok [['/', 'a', '\n', 'b', '.', 'p', 'y']] := by
  let disk : Disk := ⟨[(pyName 'l', .link (pyName 'l'))]⟩
  refine ⟨by decide, ⟨disk, [⟨'?', '?', pyName 'l', []⟩], ?_,
    lists_listing (by decide +kernel) _ _, by decide, by decide +kernel⟩, ?_,
    lists_listing (by decide +kernel) _ _, by decide, by decide +kernel, by decide +kernel⟩
  · intro e he
    obtain rfl := List.mem_singleton.mp he
    constructor <;> decide
  · intro e he
    obtain rfl := List.mem_singleton.mp he
    constructor <;> decide

end Recheck.Proofs.StatusListings
