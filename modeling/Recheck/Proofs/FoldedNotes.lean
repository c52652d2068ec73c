import Mathlib.Data.List.Forall2
import Recheck.Proofs.ListingSteps

/-!
Which notes are folded into which diagnostics. The lines of a listing fall into blocks of a head
and the notes that are folded into its diagnostic. Every line that is not blank has its message in
one block, and a note is folded where the lines before it, back to the nearest that is no note, are
about its own place and begin with an error or a warning.
-/

namespace Recheck.Proofs.FoldedNotes

open Recheck.Diagnostic Listings MessageLine ListingSteps

variable {directory : Text}

/-- The message of a line, without its place and its code. -/
def message (raw : Text) : Text :=
  match parse? (unended raw) with
  | none => Text.trim (unended raw)
  | some parts => parts.message

/-- The line has this severity and is about this line of this file. -/
def About (directory raw : Text) (category : Category) (file : Text) (line : Int) : Prop :=
  ∃ parts, parse? (unended raw) = some parts ∧ parts.category = category ∧
    Path.normalize directory parts.file = file ∧ ordinal parts.line = line

def IsNote (directory raw : Text) : Prop := ∃ file line, About directory raw .message file line

/-- The line is an error or a warning about this line of this file. -/
def Heads (directory raw : Text) (file : Text) (line : Int) : Prop :=
  About directory raw .error file line ∨ About directory raw .warning file line

/-- An error or a warning, some notes and one note more that are all about one place. -/
def Folds (directory head : Text) (between : List Text) (note : Text) : Prop :=
  ∃ file line, Heads directory head file line ∧
    (∀ n ∈ between, About directory n .message file line) ∧
    About directory note .message file line

/-- A line that opens a diagnostic, and the notes that are folded into it. -/
structure Block where
  head : Text
  notes : List Text

def Block.lines (b : Block) : List Text := b.head :: b.notes

/-- The diagnostic is that of the head alone, with the messages of the notes behind its own. -/
structure Block.Becomes (directory : Text) (b : Block) (d : Diagnostic) : Prop where
  kept : ∃ own, ofLines directory [b.head] = .ok [own] ∧
    d = { own with chain := own.chain ++ b.notes.map message }
  category : IsNote directory b.head → d.category = .message

/-- The note behind some others of the block with this head is folded into its diagnostic. -/
def FoldedInto (blocks : List Block) (others : List Text) (head : Text) (between : List Text)
    (note : Text) : Prop :=
  ∃ earlier later after, blocks = earlier ++ ⟨head, between ++ note :: after⟩ :: later ∧
    others = earlier.flatMap Block.lines

/-- The line has a block of its own. -/
def StandsAlone (blocks : List Block) (others : List Text) (line : Text) : Prop :=
  ∃ earlier later, blocks = earlier ++ ⟨line, []⟩ :: later ∧ others = earlier.flatMap Block.lines

theorem About.unique {raw file file' : Text} {category category' : Category} {line line' : Int}
    (h : About directory raw category file line) (h' : About directory raw category' file' line') :
    category = category' ∧ file = file' ∧ line = line' := by
  obtain ⟨parts, hparse, rfl, rfl, rfl⟩ := h
  obtain ⟨parts', hparse', rfl, rfl, rfl⟩ := h'
  obtain rfl := Option.some.inj (hparse.symm.trans hparse')
  exact ⟨rfl, rfl, rfl⟩

theorem Heads.unique {raw file file' : Text} {line line' : Int} (h : Heads directory raw file line)
    (h' : Heads directory raw file' line') : file = file' ∧ line = line' := by
  rcases h with h | h <;> rcases h' with h' | h' <;> exact (h.unique h').2

theorem Heads.not_isNote {raw file : Text} {line : Int} (h : Heads directory raw file line) :
    ¬ IsNote directory raw := by
  rintro ⟨file', line', hnote⟩
  rcases h with h | h <;> cases (h.unique hnote).1

theorem heads_iff {raw : Text} {parts : MessageLine} (hparse : parse? (unended raw) = some parts)
    {file : Text} {line : Int} :
    Heads directory raw file line ↔
      parts.category ≠ .message ∧ Path.normalize directory parts.file = file ∧
        ordinal parts.line = line := by
  constructor
  · rintro (⟨parts', hparse', hcategory, hplace⟩ | ⟨parts', hparse', hcategory, hplace⟩)
    all_goals
      obtain rfl := Option.some.inj (hparse.symm.trans hparse')
      exact ⟨by simp [hcategory], hplace⟩
  · rintro ⟨hcategory, hplace⟩
    cases hkind : parts.category with
    | error => exact .inl ⟨parts, hparse, hkind, hplace⟩
    | warning => exact .inr ⟨parts, hparse, hkind, hplace⟩
    | message => exact absurd hkind hcategory

theorem chain_of_owns {raw : Text} {own : Diagnostic} (h : Owns directory raw own) :
    own.chain = [message raw] := by
  rcases h with ⟨hparse, rfl⟩ | ⟨parts, hparse, -, -, rfl⟩ <;>
    simp [message, hparse, unlocated, located]

theorem heads_iff_of_owns {raw : Text} {own : Diagnostic} (h : Owns directory raw own) {file : Text}
    {line : Int} :
    Heads directory raw file line ↔
      own.category ≠ .message ∧ own.file = some file ∧ own.line = line := by
  rcases h with ⟨hparse, rfl⟩ | ⟨parts, hparse, -, -, rfl⟩
  · constructor
    · rintro (⟨parts, hparts, -⟩ | ⟨parts, hparts, -⟩) <;>
        cases hparse.symm.trans hparts
    · rintro ⟨-, hfile, -⟩
      cases hfile
  · rw [heads_iff hparse]
    simp [located]

theorem category_of_owns {raw : Text} {own : Diagnostic} (h : Owns directory raw own)
    (hnote : IsNote directory raw) : own.category = .message := by
  obtain ⟨file, line, parts, hparts, hcategory, -⟩ := hnote
  rcases h with ⟨hparse, rfl⟩ | ⟨parts', hparse, -, -, rfl⟩
  · cases hparse.symm.trans hparts
  · obtain rfl := Option.some.inj (hparse.symm.trans hparts)
    exact hcategory

namespace Block

/-- Every note of the block is folded into its head. -/
def Whole (directory : Text) (b : Block) : Prop :=
  ∀ between note after, b.notes = between ++ note :: after → Folds directory b.head between note

variable {b : Block} {d : Diagnostic} {file : Text} {line : Int} {note : Text}

theorem Whole.about (h : b.Whole directory) (hhead : Heads directory b.head file line) :
    ∀ n ∈ b.notes, About directory n .message file line := by
  intro n hn
  obtain ⟨between, after, hnotes⟩ := List.append_of_mem hn
  obtain ⟨file', line', hhead', -, habout⟩ := h between n after hnotes
  obtain ⟨rfl, rfl⟩ := hhead.unique hhead'
  exact habout

theorem Whole.concat (h : b.Whole directory) (hfolds : Folds directory b.head b.notes note) :
    Whole directory ⟨b.head, b.notes ++ [note]⟩ := by
  intro between n after hnotes
  rcases List.eq_nil_or_concat after with rfl | ⟨after, last, rfl⟩
  · obtain ⟨rfl, heq⟩ := List.append_inj' hnotes rfl
    obtain rfl := (List.cons.inj heq).1
    exact hfolds
  · rw [List.concat_eq_append, ← List.cons_append, ← List.append_assoc] at hnotes
    exact h between n after (List.append_inj' hnotes rfl).1

theorem Becomes.chain (h : b.Becomes directory d) : d.chain = b.lines.map message := by
  obtain ⟨own, hown, rfl⟩ := h.kept
  simp [chain_of_owns (owns_of_ofLines hown), lines]

theorem Becomes.heads_iff (h : b.Becomes directory d) :
    Heads directory b.head file line ↔
      d.category ≠ .message ∧ d.file = some file ∧ d.line = line := by
  obtain ⟨own, hown, rfl⟩ := h.kept
  exact heads_iff_of_owns (owns_of_ofLines hown)

theorem Becomes.attach (h : b.Becomes directory d) (hhead : Heads directory b.head file line)
    (note : Text) :
    Becomes directory ⟨b.head, b.notes ++ [note]⟩ (d.attach (message note)) := by
  obtain ⟨own, hown, rfl⟩ := h.kept
  exact ⟨⟨own, hown, by simp [attach]⟩, fun hnote => absurd hnote hhead.not_isNote⟩

theorem becomes_of_owns {raw : Text} {own : Diagnostic} (howns : Owns directory raw own)
    (hown : ofLines directory [raw] = .ok [own]) : Becomes directory ⟨raw, []⟩ own :=
  ⟨⟨own, hown, by simp⟩, category_of_owns howns⟩

end Block

/-- The blocks, the latest first, of the lines that have been read. -/
structure Divided (directory : Text) (before : List Text) (blocks : List Block)
    (done : List Diagnostic) : Prop where
  becomes : List.Forall₂ (Block.Becomes directory) blocks done
  lines : blocks.reverse.flatMap Block.lines = before
  whole : ∀ b ∈ blocks, b.Whole directory
  heads : blocks.IsChain fun b previous => ¬ Folds directory previous.head previous.notes b.head

theorem divided_nil : Divided directory [] [] [] := ⟨.nil, rfl, by simp, .nil⟩

section Step

variable {before : List Text} {blocks : List Block} {done : List Diagnostic} {raw : Text}

theorem Divided.opens (h : Divided directory before blocks done) {own : Diagnostic}
    (howns : Owns directory raw own)
    (hown : ofLines directory [raw] = .ok [own])
    (halone : ∀ previous ∈ done.head?, ¬ Continues previous own) :
    Divided directory (before ++ [raw]) (⟨raw, []⟩ :: blocks) (own :: done) where
  becomes := .cons (Block.becomes_of_owns howns hown) h.becomes
  lines := by simp [h.lines, Block.lines]
  whole := List.forall_mem_cons.mpr ⟨by simp [Block.Whole], h.whole⟩
  heads := by
    refine List.isChain_cons.mpr ⟨fun b hb hfolds => ?_, h.heads⟩
    obtain ⟨file, line, hhead, -, hnote⟩ := hfolds
    obtain ⟨rest, rfl⟩ := List.head?_eq_some_iff.mp hb
    obtain ⟨d, earlier, hbecomes, -, rfl⟩ := List.forall₂_cons_left_iff.mp h.becomes
    obtain ⟨hcategory, hfile, hline⟩ := hbecomes.heads_iff.mp hhead
    obtain ⟨parts, hparse, hmessage, hplace⟩ := hnote
    refine halone d rfl ?_
    rcases howns with ⟨hnone, -⟩ | ⟨parts', hparse', -, -, rfl⟩
    · cases hnone.symm.trans hparse
    · obtain rfl := Option.some.inj (hparse.symm.trans hparse')
      exact ⟨hmessage, hcategory, by simp [located, hfile, hplace.1],
        by simp [located, hline, hplace.2]⟩

theorem Divided.folds {previous : Diagnostic} {earlier : List Diagnostic} {parts : MessageLine}
    (h : Divided directory before blocks (previous :: earlier))
    (hparse : parse? (unended raw) = some parts)
    (hcontinues : Continues previous (located directory parts)) :
    ∃ blocks, Divided directory (before ++ [raw]) blocks
      (previous.attach parts.message :: earlier) := by
  obtain ⟨b, rest, hbecomes, hrest, rfl⟩ := List.forall₂_cons_right_iff.mp h.becomes
  obtain ⟨hnote, hcategory, hfile, hline⟩ := hcontinues
  have hhead : Heads directory b.head (Path.normalize directory parts.file) (ordinal parts.line) :=
    hbecomes.heads_iff.mpr ⟨hcategory, hfile, hline⟩
  have habout :
      About directory raw .message (Path.normalize directory parts.file) (ordinal parts.line) :=
    ⟨parts, hparse, hnote, rfl, rfl⟩
  obtain ⟨hwhole, hwholes⟩ := List.forall_mem_cons.mp h.whole
  have hfolds : Folds directory b.head b.notes raw := ⟨_, _, hhead, hwhole.about hhead, habout⟩
  have hmessage : message raw = parts.message := by simp [message, hparse]
  refine ⟨⟨b.head, b.notes ++ [raw]⟩ :: rest, .cons (hmessage ▸ hbecomes.attach hhead raw) hrest,
    ?_, List.forall_mem_cons.mpr ⟨hwhole.concat hfolds, hwholes⟩, ?_⟩
  · simp [← h.lines, Block.lines]
  · obtain ⟨hlast, hheads⟩ := List.isChain_cons.mp h.heads
    exact List.isChain_cons.mpr ⟨hlast, hheads⟩

theorem Divided.step (h : Divided directory before blocks done) {done' : List Diagnostic}
    (hadd : addLine directory done raw = .ok done') :
    ∃ blocks, Divided directory (before ++ [raw].filter shown) blocks done' := by
  cases hshown : shown raw with
  | false =>
      rw [addLine_of_not_shown hshown] at hadd
      obtain rfl := Except.ok.inj hadd
      exact ⟨blocks, by simpa [hshown] using h⟩
  | true =>
      rw [List.filter_singleton, hshown]
      rcases addLine_cases_of_shown hshown hadd with
        ⟨own, howns, hown, rfl, halone⟩ | ⟨parts, previous, earlier, hparse, rfl, hcontinues, rfl⟩
      · exact ⟨_, h.opens howns hown halone⟩
      · exact h.folds hparse hcontinues

end Step

theorem Divided.run (lines : List Text) {before : List Text} {blocks : List Block}
    {done done' : List Diagnostic} (h : Divided directory before blocks done)
    (hfold : lines.foldlM (addLine directory) done = .ok done') :
    ∃ blocks, Divided directory (before ++ lines.filter shown) blocks done' := by
  induction lines generalizing before blocks done with
  | nil =>
      obtain rfl := Except.ok.inj hfold
      exact ⟨blocks, by simpa using h⟩
  | cons raw lines ih =>
      rw [List.foldlM_cons] at hfold
      cases hadd : addLine directory done raw with
      | error failure => rw [hadd] at hfold; cases hfold
      | ok next =>
          rw [hadd] at hfold
          obtain ⟨blocks, hnext⟩ := h.step hadd
          obtain ⟨blocks, hdone⟩ := ih hnext hfold
          rw [List.append_assoc, ← List.filter_append] at hdone
          exact ⟨blocks, hdone⟩

section Blocks

variable {blocks : List Block} {others between after : List Text} {head note : Text}

theorem exists_block {line : Text} (h : blocks.flatMap Block.lines = others ++ line :: after) :
    ∃ earlier b later, blocks = earlier ++ b :: later ∧
      (b.head = line ∧ others = earlier.flatMap Block.lines ∧
          b.notes ++ later.flatMap Block.lines = after ∨
        ∃ before behind, b.notes = before ++ line :: behind ∧
          others = earlier.flatMap Block.lines ++ b.head :: before) := by
  induction blocks generalizing others with
  | nil => simp at h
  | cons b blocks ih =>
      rw [List.flatMap_cons] at h
      cases others with
      | nil =>
          obtain ⟨hhead, hafter⟩ := List.cons.inj h
          exact ⟨[], b, blocks, rfl, .inl ⟨hhead, rfl, hafter⟩⟩
      | cons first others =>
          obtain ⟨rfl, hbehind⟩ := List.cons.inj h
          rcases List.append_eq_append_iff.mp hbehind with
            ⟨rest, rfl, hrest⟩ | ⟨more, hnotes, hmore⟩
          · obtain ⟨earlier, b', later, rfl, hline⟩ := ih hrest
            refine ⟨b :: earlier, b', later, rfl, ?_⟩
            rcases hline with ⟨hhead, rfl, hafter⟩ | ⟨before, behind, hnotes, rfl⟩
            · exact .inl ⟨hhead, rfl, hafter⟩
            · exact .inr ⟨before, behind, hnotes, by simp [Block.lines]⟩
          · cases more with
            | nil =>
                have hlater : blocks.flatMap Block.lines = [] ++ line :: after := hmore.symm
                obtain ⟨earlier, b', later, rfl, hline⟩ := ih hlater
                refine ⟨b :: earlier, b', later, rfl, ?_⟩
                rw [List.append_nil] at hnotes
                rcases hline with ⟨hhead, hnil, hafter⟩ | ⟨before, behind, hnotes', hnil⟩
                · exact .inl ⟨hhead, by simp [Block.lines, ← hnil, hnotes], hafter⟩
                · simp at hnil
            | cons second more =>
                obtain ⟨rfl, -⟩ := List.cons.inj hmore
                exact ⟨[], b, blocks, rfl, .inr ⟨others, more, hnotes, rfl⟩⟩

theorem FoldedInto.folds (hwhole : ∀ b ∈ blocks, b.Whole directory)
    (h : FoldedInto blocks others head between note) : Folds directory head between note := by
  obtain ⟨earlier, later, after, rfl, -⟩ := h
  exact hwhole ⟨head, between ++ note :: after⟩ (by simp) between note after rfl

/-- No block begins with a note that the block before it, without its last notes, takes. -/
theorem not_folds_of_isChain {b : Block} {rest : List Text}
    (hheads : (b :: blocks).IsChain fun b next => ¬ Folds directory b.head b.notes next.head)
    (hlines : blocks.flatMap Block.lines = rest ++ note :: after) :
    ¬ Folds directory b.head (b.notes ++ rest) note := by
  rintro ⟨file, line, hhead, hbetween, hnote⟩
  obtain ⟨hnotes, hrest⟩ := List.forall_mem_append.mp hbetween
  cases blocks with
  | nil => simp at hlines
  | cons next blocks =>
      refine (List.isChain_cons_cons.mp hheads).1 ⟨file, line, hhead, hnotes, ?_⟩
      cases rest with
      | nil =>
          obtain ⟨hnext, -⟩ := List.cons.inj hlines
          exact hnext ▸ hnote
      | cons first rest =>
          obtain ⟨hnext, -⟩ := List.cons.inj hlines
          exact hnext ▸ hrest first (List.mem_cons_self ..)

theorem exists_notes_of_folds {b : Block}
    (hheads : (b :: blocks).IsChain fun b next => ¬ Folds directory b.head b.notes next.head)
    (hlines : b.notes ++ blocks.flatMap Block.lines = between ++ note :: after)
    (h : Folds directory b.head between note) : ∃ behind, b.notes = between ++ note :: behind := by
  rcases List.append_eq_append_iff.mp hlines with ⟨rest, rfl, hlater⟩ | ⟨more, hnotes, hlater⟩
  · exact absurd h (not_folds_of_isChain hheads hlater)
  · cases more with
    | nil =>
        have hbetween : between = b.notes ++ [] := by simpa using hnotes.symm
        have hnext : blocks.flatMap Block.lines = [] ++ note :: after := hlater.symm
        exact absurd (hbetween ▸ h) (not_folds_of_isChain hheads hnext)
    | cons second more =>
        obtain ⟨rfl, -⟩ := List.cons.inj hlater
        exact ⟨more, hnotes⟩

theorem foldedInto_of_folds (hwhole : ∀ b ∈ blocks, b.Whole directory)
    (hheads : blocks.IsChain fun b next => ¬ Folds directory b.head b.notes next.head)
    (hlines : blocks.flatMap Block.lines = others ++ head :: (between ++ note :: after))
    (h : Folds directory head between note) : FoldedInto blocks others head between note := by
  obtain ⟨earlier, b, later, rfl, hline⟩ := exists_block hlines
  rcases hline with ⟨rfl, rfl, hafter⟩ | ⟨before, behind, hnotes, -⟩
  · have hchain := (List.isChain_append.mp hheads).2.1
    obtain ⟨behind, hnotes⟩ := exists_notes_of_folds hchain hafter h
    exact ⟨earlier, later, behind, by rw [← hnotes], rfl⟩
  · obtain ⟨_, _, hhead, -⟩ := h
    obtain ⟨_, _, -, -, hnote⟩ := hwhole b (by simp) before head behind hnotes
    exact absurd ⟨_, _, hnote⟩ hhead.not_isNote

theorem standsAlone_of_not_folds (hwhole : ∀ b ∈ blocks, b.Whole directory)
    (hnote : IsNote directory note)
    (hlines : blocks.flatMap Block.lines = others ++ note :: after)
    (h : ∀ earlier head between, others = earlier ++ head :: between →
      ¬ Folds directory head between note) :
    StandsAlone blocks others note := by
  obtain ⟨earlier, ⟨opening, notes⟩, later, rfl, hline⟩ := exists_block hlines
  rcases hline with ⟨rfl, rfl, -⟩ | ⟨before, behind, hnotes, rfl⟩
  · cases notes with
    | nil => exact ⟨earlier, later, rfl, rfl⟩
    | cons first notes =>
        obtain ⟨_, _, hhead, -⟩ := hwhole ⟨opening, first :: notes⟩ (by simp) [] first notes rfl
        exact absurd hnote hhead.not_isNote
  · exact absurd (hwhole _ (by simp) before note behind hnotes) (h _ opening before rfl)

end Blocks

theorem flatMap_chain {blocks : List Block} {ds : List Diagnostic}
    (h : List.Forall₂ (Block.Becomes directory) blocks ds) :
    ds.flatMap chain = (blocks.flatMap Block.lines).map message := by
  induction h with
  | nil => rfl
  | cons hbecomes _ ih =>
      rw [List.flatMap_cons, List.flatMap_cons, List.map_append, hbecomes.chain, ih]

/-- The lines of a listing that can be read fall into one block for each diagnostic. The messages
of the diagnostics are those of the lines that are not blank, in their order. A note is folded into
a diagnostic where the nearest line before it that is no note is an error or a warning about its
place and all notes between them are about that place, and into the diagnostic of that line; every
other note stands alone. -/
theorem foldedInto_iff_of_ofLines {lines : List Text} {ds : List Diagnostic}
    (h : ofLines directory lines = .ok ds) :
    ds.flatMap chain = (lines.filter shown).map message ∧
    ∃ blocks, List.Forall₂ (Block.Becomes directory) blocks ds ∧
      blocks.flatMap Block.lines = lines.filter shown ∧
      (∀ others head between note after,
        lines.filter shown = others ++ head :: (between ++ note :: after) →
          (FoldedInto blocks others head between note ↔ Folds directory head between note)) ∧
      ∀ others note after, lines.filter shown = others ++ note :: after → IsNote directory note →
        (∀ earlier head between, others = earlier ++ head :: between →
          ¬ Folds directory head between note) →
          StandsAlone blocks others note := by
  obtain ⟨blocks, hdivided⟩ := divided_nil.run lines (foldlM_of_ofLines h)
  rw [List.nil_append] at hdivided
  have hbecomes : List.Forall₂ (Block.Becomes directory) blocks.reverse ds := by
    rw [← List.forall₂_reverse_iff, List.reverse_reverse]
    exact hdivided.becomes
  have hwhole : ∀ b ∈ blocks.reverse, b.Whole directory := fun b hb =>
    hdivided.whole b (List.mem_reverse.mp hb)
  rw [← hdivided.lines]
  refine ⟨flatMap_chain hbecomes, blocks.reverse, hbecomes, rfl, ?_, ?_⟩
  · intro others head between note after hlines
    refine ⟨fun hfolded => hfolded.folds hwhole, fun hfolds => ?_⟩
    exact foldedInto_of_folds hwhole (List.isChain_reverse.mpr hdivided.heads) hlines hfolds
  · intro others note after hlines hnote hnot
    exact standsAlone_of_not_folds hwhole hnote hlines hnot

/-- An error with a note, a note about another line, and a note about the error again, by relative
paths and an absolute one. -/
def interrupted : List Text :=
  ["a:1: error: x  [c]", "/w/a:1:9: note: y", " ", "a:2: note: z", "a:1: note: w", "done"].map
    String.toList

theorem foldedInto_iff_of_ofLines_interrupted :
    ∃ ds blocks, ofLines "/w".toList interrupted = .ok ds ∧
      List.Forall₂ (Block.Becomes "/w".toList) blocks ds ∧
      FoldedInto blocks [] "a:1: error: x  [c]".toList [] "/w/a:1:9: note: y".toList ∧
      ¬ FoldedInto blocks [] "a:1: error: x  [c]".toList
        ["/w/a:1:9: note: y".toList, "a:2: note: z".toList] "a:1: note: w".toList := by
  have hds : ofLines "/w".toList interrupted = .ok
      [{ file := some "/w/a".toList, line := 0, column := 0, code := ['c']
         chain := [['x'], ['y']] },
       { file := some "/w/a".toList, line := 1, column := 0, code := defaultCode, chain := [['z']]
         category := .message },
       { file := some "/w/a".toList, line := 0, column := 0, code := defaultCode, chain := [['w']]
         category := .message },
       unlocated "done".toList] := by decide +kernel
  obtain ⟨-, blocks, hbecomes, -, hfolded, -⟩ := foldedInto_iff_of_ofLines hds
  have herror : About "/w".toList "a:1: error: x  [c]".toList .error "/w/a".toList 0 :=
    ⟨{ file := ['a'], line := some ['1'], column := none, category := .error
       message := ['x'], code := some ['c'] }, by decide +kernel⟩
  have hnote : About "/w".toList "/w/a:1:9: note: y".toList .message "/w/a".toList 0 :=
    ⟨{ file := "/w/a".toList, line := some ['1'], column := some ['9'], category := .message
       message := ['y'], code := none }, by decide +kernel⟩
  have hother : About "/w".toList "a:2: note: z".toList .message "/w/a".toList 1 :=
    ⟨{ file := ['a'], line := some ['2'], column := none, category := .message
       message := ['z'], code := none }, by decide +kernel⟩
  refine ⟨_, blocks, hds, hbecomes, ?_, fun h => ?_⟩
  · have hlines : interrupted.filter shown = [] ++ "a:1: error: x  [c]".toList ::
        ([] ++ "/w/a:1:9: note: y".toList ::
          ["a:2: note: z", "a:1: note: w", "done"].map String.toList) := by decide +kernel
    exact (hfolded _ _ _ _ _ hlines).mpr ⟨_, _, .inl herror, by simp, hnote⟩
  · obtain ⟨file, line, -, hbetween, hlast⟩ :=
      (hfolded [] _ _ _ ["done".toList] (by decide +kernel)).mp h
    obtain ⟨-, -, hzero⟩ := (hbetween _ (by simp)).unique hnote
    obtain ⟨-, -, hone⟩ := (hbetween "a:2: note: z".toList (by simp)).unique hother
    omega

end Recheck.Proofs.FoldedNotes
