import Mathlib.Data.List.Chain
import Recheck.Diagnostic.Listing
import Recheck.Proofs.MessageLines
import Recheck.Proofs.Paths

/-!
Reading a printed listing. Diagnostics that are printed one after the other are read as the same
diagnostics in the same order: a head opens a diagnostic, the notes under it are attached to it,
and a message of its own does not continue the diagnostic before it.
-/

namespace Recheck.Proofs.Listings

open Recheck.Diagnostic MessageLine MessageLines

variable {directory : Text}

/-- A place that can be read back from a line of a listing. Its numbers count from zero and are
listed from one on. -/
structure Nameable (file : Text) (line column : Nat) : Prop where
  normal : Path.clean file = file
  one_line : '\n' ∉ file
  unmarked : Unmarked file
  line : (Text.ofNat (line + 1)).length ≤ Text.maxDigits
  column : (Text.ofNat (column + 1)).length ≤ Text.maxDigits

/-- A message that is not taken for something else on a line of its own, without a code. -/
structure Note (note : Text) : Prop where
  one_line : '\n' ∉ note
  last : note.getLast? ≠ some '\r'
  no_code : ¬ EndsInCode note

/-- The diagnostics from which a listing loses nothing. -/
inductive Listable : Diagnostic → Prop
  | unlocated {text : Text} (shown : Text.allBlank text = false) (trimmed : Text.trim text = text)
      (unmarked : Unmarked text) : Listable
        { file := none, line := 0, column := 0, code := defaultCode, chain := [text] }
  | located {file : Text} {line column : Nat} {code head : Text} {notes : List Text}
      {category : Category} (place : Nameable file line column) (is_code : IsCode code)
      (head_line : '\n' ∉ head) (are_notes : ∀ note ∈ notes, Note note)
      (alone : category = .message → notes = []) : Listable
        { file := some file, line, column, code, chain := head :: notes, category
          syntactic := code == syntaxCode }

/-- A message of its own that would be taken for a note of the diagnostic before it. -/
def Continues (previous d : Diagnostic) : Prop :=
  d.category = .message ∧ previous.category ≠ .message ∧ previous.file = d.file ∧
    previous.line = d.line

theorem dropTrailing_of_getLast? {p : Char → Bool} {t : Text} (h : ∀ c ∈ t.getLast?, p c = false) :
    Text.dropTrailing p t = t := by
  rw [Text.dropTrailing, List.reverse_eq_iff]
  rw [← List.head?_reverse] at h
  cases hback : t.reverse with
  | nil => rfl
  | cons c back => exact List.dropWhile_cons_of_neg (by simp [h c (by simp [hback])])

theorem getLast?_dropTrailing {p : Char → Bool} {t : Text} :
    ∀ c ∈ (Text.dropTrailing p t).getLast?, p c = false := by
  intro c hc
  rw [Text.dropTrailing, List.getLast?_reverse] at hc
  have := List.head?_dropWhile_not p t.reverse
  rw [Option.mem_def.mp hc] at this
  simpa using this

theorem addLine_unlocated {text : Text} (shown : Text.allBlank text = false)
    (trimmed : Text.trim text = text) (unmarked : Unmarked text) (done : List Diagnostic) :
    addLine directory done text = .ok
      ({ file := none, line := 0, column := 0, code := defaultCode, chain := [text] } :: done) := by
  have hline : Text.dropTrailing (fun c => c == '\r' || c == '\n') text = text := by
    refine dropTrailing_of_getLast? fun c hc => ?_
    have hblank : Text.isBlank c = false := by
      rw [← trimmed] at hc
      exact getLast?_dropTrailing c hc
    have hreturn : c ≠ '\r' := by
      rintro rfl
      exact absurd hblank (by decide)
    have hfeed : c ≠ '\n' := by
      rintro rfl
      exact absurd hblank (by decide)
    simp [hreturn, hfeed]
  simp [addLine, hline, shown, parse?_of_unmarked unmarked, Diagnostic.unlocated, trimmed]

/-- The diagnostic of a line that is not attached to another one. -/
def entry (l : MessageLine) (place column : Nat) : Diagnostic :=
  { file := some l.file, line := place, column, code := l.code.getD defaultCode
    chain := [l.message], category := l.category
    syntactic := l.code.getD defaultCode == syntaxCode }

/-- A line of a listing from which a place in a file is read back. -/
structure Locates (l : MessageLine) (place column : Nat) : Prop where
  faithful : Faithful l
  last : ∀ c ∈ l.print.getLast?, c ≠ '\r' ∧ c ≠ '\n'
  normal : Path.clean l.file = l.file
  place : index l.line = .ok place
  column : index l.column = .ok column

theorem Locates.dropTrailing_print {l : MessageLine} {place column : Nat}
    (h : Locates l place column) :
    Text.dropTrailing (fun c => c == '\r' || c == '\n') l.print = l.print :=
  dropTrailing_of_getLast? fun c hc => by simp [h.last c hc]

theorem allBlank_print (l : MessageLine) : Text.allBlank l.print = false := by
  have hcolon : ':' ∈ l.print := by simp [MessageLine.print, marker]
  rw [Text.allBlank, List.all_eq_false]
  exact ⟨':', hcolon, by decide⟩

theorem addLine_entry {l : MessageLine} {place column : Nat} (h : Locates l place column)
    {done : List Diagnostic}
    (halone : l.category = .message → ∀ d ∈ done.head?, d.takesNote l.file place = false) :
    addLine directory done l.print = .ok (entry l place column :: done) := by
  obtain ⟨file, line, col, category, message, code⟩ := l
  have hplace : index line = .ok place := h.place
  have hcolumn : index col = .ok column := h.column
  have hnormal : Path.normalize directory file = file := Paths.normalize_of_clean h.normal
  simp only [addLine, h.dropTrailing_print, allBlank_print, parse?_print h.faithful,
    hnormal, hplace,
    hcolumn]
  cases category with
  | error => rfl
  | warning => rfl
  | message =>
      cases done with
      | nil => rfl
      | cons previous earlier =>
          have hprevious : previous.takesNote file place = false := halone rfl previous rfl
          simp [bind, Except.bind, hprevious]
          rfl

theorem addLine_note (directory : Text) {l : MessageLine} {place column : Nat}
    (h : Locates l place column) (hcategory : l.category = .message) {previous : Diagnostic}
    (earlier : List Diagnostic)
    (hprevious : previous.takesNote l.file place = true) :
    addLine directory (previous :: earlier) l.print =
      .ok (previous.attach l.message :: earlier) := by
  obtain ⟨file, line, col, category, message, code⟩ := l
  obtain rfl : category = .message := hcategory
  have hplace : index line = .ok place := h.place
  have hnormal : Path.normalize directory file = file := Paths.normalize_of_clean h.normal
  have hprevious : previous.takesNote file place = true := hprevious
  simp only [addLine, h.dropTrailing_print, allBlank_print, parse?_print h.faithful,
    hnormal, hplace]
  simp [bind, Except.bind, hprevious]
  rfl

theorem getLast?_print_of_code {l : MessageLine} {code : Text} (h : l.code = some code) :
    l.print.getLast? = some ']' := by
  rw [MessageLine.print, h, Option.elim_some, ← List.append_assoc]
  exact List.getLast?_concat

theorem getLast?_print_of_no_code {l : MessageLine} (h : l.code = none) :
    l.print.getLast? = some (l.message.getLast?.getD ' ') := by
  have hmarker : (marker l.category).getLast? = some ' ' := by cases l.category <;> rfl
  cases hmessage : l.message.getLast? <;> simp [MessageLine.print, h, hmarker, hmessage]

section Place

variable {d : Diagnostic} {file : Text} {line column : Nat} (place : Nameable file line column)
  (hline : d.line = line) (hcolumn : d.column = column)
include place hline hcolumn

theorem faithful_lineAt {message : Text} (category : Category) {code : Option Text}
    (message_line : '\n' ∉ message) (is_code : ∀ word, code = some word → IsCode word)
    (no_code : code = none → ¬ EndsInCode message) :
    Faithful (d.lineAt file category message code) where
  file_ne := place.normal ▸ Paths.clean_ne_nil file
  file_line := place.one_line
  file_unmarked := place.unmarked
  line := ⟨Text.ofNat (line + 1), spelled_ofNat _, by simp only [lineAt, hline]; rfl⟩
  column := ⟨Text.ofNat (column + 1), spelled_ofNat _, by simp only [lineAt, hcolumn]; rfl⟩
  message_line := message_line
  code := is_code
  no_code := no_code

omit hcolumn in
theorem index_line_lineAt (category : Category) (message : Text) (code : Option Text) :
    index (d.lineAt file category message code).line = .ok line := by
  simp only [lineAt, hline]
  exact index_ofNat place.line

omit hline in
theorem index_column_lineAt (category : Category) (message : Text) (code : Option Text) :
    index (d.lineAt file category message code).column = .ok column := by
  simp only [lineAt, hcolumn]
  exact index_ofNat place.column

theorem locates_head {head code : Text} (category : Category) (head_line : '\n' ∉ head)
    (is_code : IsCode code) :
    Locates (d.lineAt file category head (some code)) line column where
  faithful := faithful_lineAt place hline hcolumn category head_line
    (by simpa using is_code) (by simp)
  last := by
    rw [getLast?_print_of_code rfl]
    rintro c ⟨⟩
    decide
  normal := place.normal
  place := index_line_lineAt place hline ..
  column := index_column_lineAt place hcolumn ..

theorem locates_note {note : Text} (hnote : Note note) :
    Locates (d.lineAt file .message note none) line column where
  faithful := faithful_lineAt place hline hcolumn .message hnote.one_line (by simp)
    fun _ => hnote.no_code
  last := by
    rw [getLast?_print_of_no_code rfl]
    rintro c hc
    obtain rfl := Option.some.inj hc
    cases hlast : note.getLast? with
    | none => simp [lineAt, hlast]
    | some c =>
        have hreturn : c ≠ '\r' := fun h => hnote.last (h ▸ hlast)
        have hfeed : c ≠ '\n' := fun h => hnote.one_line (h ▸ List.mem_of_getLast? hlast)
        simpa [lineAt, hlast] using ⟨hreturn, hfeed⟩
  normal := place.normal
  place := index_line_lineAt place hline ..
  column := index_column_lineAt place hcolumn ..

theorem foldlM_addLine_notes (hfile : d.file = some file) (hcategory : d.category ≠ .message)
    (earlier : List Diagnostic) {notes : List Text} (are_notes : ∀ note ∈ notes, Note note)
    (chain : List Text) :
    (notes.map fun note => (d.lineAt file .message note none).print).foldlM (addLine directory)
        ({ d with chain } :: earlier)
      = .ok ({ d with chain := chain ++ notes } :: earlier) := by
  induction notes generalizing chain with
  | nil => simp [pure, Except.pure]
  | cons note notes ih =>
      obtain ⟨hnote, hnotes⟩ := List.forall_mem_cons.mp are_notes
      have htakes : ({ d with chain } : Diagnostic).takesNote file line = true := by
        simp [takesNote, hcategory, hfile, hline]
      have hstep := addLine_note directory (locates_note place hline hcolumn hnote) rfl earlier
        htakes
      have hrest := ih hnotes (chain ++ [note])
      rw [List.append_assoc] at hrest
      rw [List.map_cons, List.foldlM_cons, hstep]
      exact hrest

end Place

/-- A diagnostic that is printed is read, unless it is taken for a note. -/
theorem foldlM_addLine_print {d : Diagnostic} (h : Listable d) {done : List Diagnostic}
    (halone : ∀ previous ∈ done.head?, ¬ Continues previous d) :
    d.print.foldlM (addLine directory) done = .ok (d :: done) := by
  cases h with
  | unlocated shown trimmed unmarked =>
      rw [Diagnostic.print, List.foldlM_cons, addLine_unlocated shown trimmed unmarked]
      rfl
  | @located file line column code head notes category place is_code head_line are_notes alone =>
      let opened : Diagnostic :=
        { file := some file, line, column, code, chain := [head], category
          syntactic := code == syntaxCode }
      have hhead : addLine directory done (opened.lineAt file category head (some code)).print
          = .ok (opened :: done) := by
        refine addLine_entry (locates_head place rfl rfl category head_line is_code) ?_
        rintro rfl previous hprevious
        rw [Bool.eq_false_iff]
        intro htakes
        simp only [takesNote, Bool.and_eq_true, decide_eq_true_eq, beq_iff_eq] at htakes
        obtain ⟨⟨hcategory, hfile⟩, hline⟩ := htakes
        exact halone previous hprevious ⟨rfl, hcategory, hfile, hline⟩
      have hnotes : (notes.map fun note => (opened.lineAt file .message note none).print).foldlM
          (addLine directory) (opened :: done) =
            .ok ({ opened with chain := head :: notes } :: done) := by
        by_cases hcategory : category = .message
        · obtain rfl := alone hcategory
          rfl
        · exact foldlM_addLine_notes (d := opened) place rfl rfl rfl hcategory done are_notes [head]
      have hprint : Diagnostic.print { opened with chain := head :: notes }
          = (opened.lineAt file category head (some code)).print
            :: notes.map fun note => (opened.lineAt file .message note none).print := rfl
      rw [hprint, List.foldlM_cons, hhead]
      exact hnotes

theorem foldlM_addLine_printAll {ds : List Diagnostic} (hlistable : ∀ d ∈ ds, Listable d)
    {done : List Diagnostic}
    (halone : (done.head?.toList ++ ds).IsChain fun previous d => ¬ Continues previous d) :
    (printAll ds).foldlM (addLine directory) done = .ok (ds.reverse ++ done) := by
  induction ds generalizing done with
  | nil => rfl
  | cons d ds ih =>
      obtain ⟨hd, hds⟩ := List.forall_mem_cons.mp hlistable
      have hfirst : ∀ previous ∈ done.head?, ¬ Continues previous d := by
        intro previous hprevious
        rw [Option.mem_def.mp hprevious] at halone
        exact (List.isChain_cons_cons.mp halone).1
      have hrest : (d :: ds).IsChain fun previous d => ¬ Continues previous d :=
        List.IsChain.right_of_append halone
      have hprint : printAll (d :: ds) = d.print ++ printAll ds := List.flatMap_cons ..
      rw [hprint, List.foldlM_append, foldlM_addLine_print hd hfirst, List.reverse_cons,
        List.append_assoc]
      exact ih hds hrest

/-- A listing is read as the diagnostics that it was printed from. -/
theorem ofLines_printAll {ds : List Diagnostic} (hlistable : ∀ d ∈ ds, Listable d)
    (halone : ds.IsChain fun previous d => ¬ Continues previous d) :
    Diagnostic.ofLines directory (printAll ds) = .ok ds := by
  have hread : (printAll ds).foldlM (addLine directory) [] = .ok (ds.reverse ++ []) :=
    foldlM_addLine_printAll hlistable halone
  rw [ofLines, hread, List.append_nil]
  exact congrArg Except.ok ds.reverse_reverse

/-- An error with a note, a message of its own on the next line, and a message without a place. -/
def errorThenMessage : List Diagnostic :=
  [{ file := some ['/', 'a', ':', '1'], line := 0, column := 4, code := ['a', 'r', 'g']
     chain := [['x', ':', ' ', 'e', 'r', 'r', 'o', 'r', ':', ' ', '[', '2', ']'],
       ['s', 'e', 'e']] },
   { file := some ['/', 'a', ':', '1'], line := 1, column := 0, code := ['m', 'i', 's', 'c']
     chain := [['i', 'n', 't']], category := .message },
   { file := none, line := 0, column := 0, code := defaultCode
     chain := [['1', ' ', 'e', 'r', 'r', 'o', 'r']] }]

theorem listable_errorThenMessage : ∀ d ∈ errorThenMessage, Listable d := by
  have hunmarked : Unmarked ['/', 'a', ':', '1'] := by
    intro category
    cases category <;> decide
  have hfirst : Nameable ['/', 'a', ':', '1'] 0 4 :=
    ⟨by decide, by decide, hunmarked, by decide, by decide⟩
  have hsecond : Nameable ['/', 'a', ':', '1'] 1 0 :=
    ⟨by decide, by decide, hunmarked, by decide, by decide⟩
  have hnote : Note ['s', 'e', 'e'] := by
    refine ⟨by decide, by decide, ?_⟩
    rintro ⟨before, code, -, h⟩
    have hlast := congrArg List.getLast? h
    rw [List.getLast?_concat] at hlast
    exact absurd hlast (by decide)
  have hglobal : Unmarked ['1', ' ', 'e', 'r', 'r', 'o', 'r'] := by
    intro category
    cases category <;> decide
  rintro d (_ | ⟨_, _ | ⟨_, _ | ⟨_, ⟨⟩⟩⟩⟩)
  · exact .located hfirst ⟨by decide, List.all_eq_true.mp (by decide)⟩ (by decide)
      (by simpa using hnote) (by simp)
  · exact .located hsecond ⟨by decide, List.all_eq_true.mp (by decide)⟩ (by decide) (by simp)
      (by simp)
  · exact .unlocated (by decide) (by decide) hglobal

theorem ofLines_printAll_errorThenMessage :
    (∀ d ∈ errorThenMessage, Listable d) ∧
    (errorThenMessage.IsChain fun previous d => ¬ Continues previous d) ∧
    Diagnostic.ofLines ['/'] (printAll errorThenMessage) = .ok errorThenMessage := by
  have hchain : errorThenMessage.IsChain fun previous d => ¬ Continues previous d := by
    simp [errorThenMessage, Continues]
  exact ⟨listable_errorThenMessage, hchain, ofLines_printAll listable_errorThenMessage hchain⟩

end Recheck.Proofs.Listings
