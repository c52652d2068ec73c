import Mathlib.Data.List.DropRight
import Mathlib.Data.List.ModifyLast
import Recheck.Proofs.GroupedReports
import Recheck.Proofs.ReportText

/-!
The spans of a coloured report. They lie in its text, one after the other, and those in the colour
of a severity cover the lines of the records. What the end of the text loses is blank, and so it
takes at most the blank end of the last line.
-/

namespace Recheck.Proofs.ColouredText

open Recheck.Styled
open Recheck.Proofs.FileRecords
open Recheck.Proofs.GroupedReports
open Recheck.Proofs.ReportText (lasting)

/-- A span starts and ends before another one starts. -/
def Before (a b : Span) : Prop := a.start < b.start ∧ a.stop ≤ b.start

structure WellSpaced (t : Styled) : Prop where
  inside : ∀ s ∈ t.spans, s.start ≤ s.stop ∧ s.stop ≤ t.plain.length
  apart : t.spans.Pairwise Before

theorem plain_ofPieces_append (xs ys : List Piece) :
    (ofPieces (xs ++ ys)).plain = (ofPieces xs).plain ++ (ofPieces ys).plain :=
  List.flatMap_append

theorem plain_ofPieces_cons (piece : Piece) (rest : List Piece) :
    (ofPieces (piece :: rest)).plain = sanitize piece.text ++ (ofPieces rest).plain := by
  rw [ofPieces, List.flatMap_cons]
  rfl

theorem spansFrom_append (offset : Nat) (xs ys : List Piece) :
    spansFrom offset (xs ++ ys) =
      spansFrom offset xs ++ spansFrom (offset + (ofPieces xs).plain.length) ys := by
  induction xs generalizing offset with
  | nil => rfl
  | cons piece xs ih =>
      rw [List.cons_append, spansFrom, ih, spansFrom, List.append_assoc, plain_ofPieces_cons,
        List.length_append, Nat.add_assoc]

theorem ofPieces_concat (pieces : List Piece) (piece : Piece) :
    ofPieces (pieces ++ [piece]) = ⟨(ofPieces pieces).plain ++ sanitize piece.text,
      spansFrom 0 pieces ++ (spanOf? (ofPieces pieces).plain.length piece).toList⟩ := by
  simp [ofPieces, spansFrom_append, spansFrom]

theorem of_mem_spanOf? {offset : Nat} {piece : Piece} {s : Span}
    (h : s ∈ (spanOf? offset piece).toList) :
    s.start = offset ∧ s.stop = offset + (sanitize piece.text).length := by
  rw [Option.mem_toList, spanOf?] at h
  split at h
  · cases h
  · obtain ⟨style, -, rfl⟩ := Option.map_eq_some_iff.mp h
    exact ⟨rfl, rfl⟩

theorem bounds_of_mem_spansFrom {offset : Nat} {pieces : List Piece} {s : Span}
    (h : s ∈ spansFrom offset pieces) :
    offset ≤ s.start ∧ s.start ≤ s.stop ∧ s.stop ≤ offset + (ofPieces pieces).plain.length := by
  induction pieces generalizing offset with
  | nil => cases h
  | cons piece pieces ih =>
      rw [plain_ofPieces_cons, List.length_append]
      rcases List.mem_append.mp h with h | h
      · obtain ⟨hstart, hstop⟩ := of_mem_spanOf? h
        omega
      · have := ih h
        omega

/-- Pieces of which each span starts before the end, after the spans in front of it. A piece without
width may have a span, and so another piece has to come behind it. -/
structure Advances (pieces : List Piece) : Prop where
  starts : ∀ offset, ∀ s ∈ spansFrom offset pieces,
    s.start < offset + (ofPieces pieces).plain.length
  apart : ∀ offset, (spansFrom offset pieces).Pairwise Before

theorem Advances.append {xs ys : List Piece} (hx : Advances xs) (hy : Advances ys) :
    Advances (xs ++ ys) := by
  constructor
  · intro offset s hs
    rw [plain_ofPieces_append, List.length_append]
    rw [spansFrom_append, List.mem_append] at hs
    rcases hs with hs | hs
    · have := hx.starts offset s hs
      omega
    · have := hy.starts _ s hs
      omega
  · intro offset
    rw [spansFrom_append]
    -- A span of the first pieces starts before their end, where those of the others begin.
    refine List.pairwise_append.mpr ⟨hx.apart offset, hy.apart _, fun a ha b hb => ?_⟩
    have hfirst := hx.starts offset a ha
    have hends := bounds_of_mem_spansFrom ha
    have hnext := bounds_of_mem_spansFrom hb
    constructor
    · omega
    · omega

theorem advances_nil : Advances [] where
  starts _ _ h := nomatch h
  apart _ := .nil

theorem Advances.flatMap {α : Type} {f : α → List Piece} (h : ∀ a, Advances (f a))
    (items : List α) : Advances (items.flatMap f) := by
  induction items with
  | nil => exact advances_nil
  | cons a items ih => exact (h a).append ih

theorem advances_unstyled (t : Text) : Advances [⟨t, none⟩] where
  starts _ s h := by simp [spansFrom, spanOf?] at h
  apart _ := by simp [spansFrom, spanOf?]

theorem advances_line (t : Text) (style : Style) : Advances [⟨t, some style⟩, ⟨['\n'], none⟩] := by
  have hspans (offset : Nat) : spansFrom offset [⟨t, some style⟩, ⟨['\n'], none⟩] =
      (spanOf? offset ⟨t, some style⟩).toList := by
    simp [spansFrom, spanOf?]
  constructor
  · intro offset s hs
    rw [hspans] at hs
    obtain ⟨hstart, -⟩ := of_mem_spanOf? hs
    have hfeed : (sanitize ['\n']).length = 1 := rfl
    rw [plain_ofPieces_cons, plain_ofPieces_cons, List.length_append, List.length_append, hfeed]
    omega
  · intro offset
    rw [hspans]
    cases spanOf? offset ⟨t, some style⟩ with
    | none => exact .nil
    | some s => exact List.pairwise_singleton Before s

theorem advances_wide {piece : Piece} {c : Char} (h : c ∈ sanitize piece.text) :
    Advances [piece] := by
  have hspans (offset : Nat) : spansFrom offset [piece] = (spanOf? offset piece).toList :=
    List.append_nil _
  constructor
  · intro offset s hs
    rw [hspans] at hs
    obtain ⟨hstart, -⟩ := of_mem_spanOf? hs
    have hwide := List.length_pos_of_mem h
    rw [plain_ofPieces_cons, List.length_append]
    omega
  · intro offset
    rw [hspans]
    cases spanOf? offset piece with
    | none => exact .nil
    | some s => exact List.pairwise_singleton Before s

theorem Advances.wellSpaced {pieces : List Piece} (h : Advances pieces) :
    WellSpaced (ofPieces pieces) where
  inside s hs := by
    have := bounds_of_mem_spansFrom hs
    rw [Nat.zero_add] at this
    exact this.2
  apart := h.apart 0

def under (t : Text) (s : Span) : Text := (t.drop s.start).take (s.stop - s.start)

/-- The styles of the spans with the texts under them. -/
def marks (t : Styled) : List (Style × Text) := t.spans.map fun s => (s.style, under t.plain s)

def mark? (piece : Piece) : Option (Style × Text) :=
  if piece.text.isEmpty then none else piece.style.map fun style => (style, sanitize piece.text)

theorem mark_spanOf? (front back : Text) (piece : Piece) :
    (spanOf? front.length piece).toList.map
      (fun s => (s.style, under (front ++ (sanitize piece.text ++ back)) s)) =
      (mark? piece).toList := by
  unfold spanOf? mark?
  split
  · rfl
  · cases piece.style with
    | none => rfl
    | some style => simp [under]

theorem marks_spansFrom (front : Text) (pieces : List Piece) :
    (spansFrom front.length pieces).map
      (fun s => (s.style, under (front ++ (ofPieces pieces).plain) s)) =
      pieces.filterMap mark? := by
  induction pieces generalizing front with
  | nil => rfl
  | cons piece pieces ih =>
      have hrest := ih (front ++ sanitize piece.text)
      rw [List.length_append, List.append_assoc] at hrest
      rw [spansFrom, List.map_append, plain_ofPieces_cons, mark_spanOf?, hrest,
        List.filterMap_cons]
      cases mark? piece <;> rfl

theorem marks_ofPieces (pieces : List Piece) :
    marks (ofPieces pieces) = pieces.filterMap mark? :=
  marks_spansFrom [] pieces

theorem WellSpaced.trimEnd {t : Styled} (h : WellSpaced t) : WellSpaced t.trimEnd := by
  unfold Styled.trimEnd
  dsimp only
  split
  · exact h
  · constructor
    · intro s hs
      obtain ⟨s', hs', rfl⟩ := List.mem_map.mp hs
      obtain ⟨hmem, hstart⟩ := List.mem_filter.mp hs'
      have hends := h.inside s' hmem
      have hstart := of_decide_eq_true hstart
      dsimp only
      omega
    · refine List.pairwise_map.mpr ((h.apart.filter _).imp fun {a b} hab => ?_)
      obtain ⟨hstart, hstop⟩ := hab
      constructor
      · exact hstart
      · dsimp only
        omega

theorem trimEnd_append {t blank : Text} {c : Char} (hc : c ∈ t) (hshown : Text.isBlank c = false)
    (hblank : ∀ c ∈ blank, Text.isBlank c = true) (front : Text) :
    Text.trimEnd (front ++ (t ++ blank)) = front ++ Text.trimEnd t := by
  have hrest : t.reverse.dropWhile Text.isBlank ≠ [] := by
    intro hnil
    have := List.dropWhile_eq_nil_iff.mp hnil c (List.mem_reverse.mpr hc)
    exact absurd (hshown.symm.trans this) Bool.false_ne_true
  have hreverse : (front ++ (t ++ blank)).reverse =
      blank.reverse ++ (t.reverse ++ front.reverse) := by simp
  rw [Text.trimEnd, Text.dropTrailing, hreverse,
    List.dropWhile_append_of_pos (by simpa using hblank), List.dropWhile_append,
      if_neg (by simpa using hrest), List.reverse_append,
    List.reverse_reverse]
  rfl

theorem trimEnd_isPrefix (t : Text) : Text.trimEnd t <+: t := List.rdropWhile_prefix _ t

theorem trimEnd_ne_nil {t : Text} {c : Char} (hc : c ∈ t) (hshown : Text.isBlank c = false) :
    Text.trimEnd t ≠ [] := by
  intro hnil
  have hblank := List.rdropWhile_eq_nil_iff.mp hnil c hc
  exact Bool.false_ne_true (hshown.symm.trans hblank)

theorem sanitize_trimEnd_sanitize (t : Text) :
    sanitize (Text.trimEnd (sanitize t)) = Text.trimEnd (sanitize t) := by
  refine List.filter_eq_self.mpr fun c hc => ?_
  exact (List.mem_filter.mp ((trimEnd_isPrefix _).subset hc)).2

def cut (n : Nat) (s : Span) : Span := { s with stop := min n s.stop }

theorem map_cut_of_stops {spans : List Span} {n : Nat} (h : ∀ s ∈ spans, s.stop ≤ n) :
    spans.map (cut n) = spans := by
  refine (List.map_congr_left fun s hs => ?_).trans (List.map_id _)
  rw [cut, min_eq_right (h s hs)]
  rfl

theorem trimEnd_of_starts {t : Styled}
    (hstart : ∀ s ∈ t.spans, s.start < (Text.trimEnd t.plain).length)
    (hstop : ∀ s ∈ t.spans, s.stop ≤ t.plain.length) :
    t.trimEnd =
      ⟨Text.trimEnd t.plain, t.spans.map (cut (Text.trimEnd t.plain).length)⟩ := by
  unfold Styled.trimEnd
  dsimp only
  split
  · next hlength =>
      rw [(trimEnd_isPrefix t.plain).eq_of_length hlength, map_cut_of_stops hstop]
  · rw [List.filter_eq_self.mpr fun s hs => decide_eq_true (hstart s hs)]
    rfl

theorem spansFrom_unstyled {offset : Nat} {pieces : List Piece}
    (h : ∀ p ∈ pieces, p.style = none) : spansFrom offset pieces = [] := by
  induction pieces generalizing offset with
  | nil => rfl
  | cons piece pieces ih =>
      obtain ⟨hstyle, hrest⟩ := List.forall_mem_cons.mp h
      rw [spansFrom, ih hrest, spanOf?, hstyle]
      simp

theorem cut_spanOf? {piece : Piece} {c : Char} (hc : c ∈ sanitize piece.text)
    (hshown : Text.isBlank c = false) (offset : Nat) :
    (spanOf? offset piece).map (cut (offset + (Text.trimEnd (sanitize piece.text)).length)) =
      spanOf? offset { piece with text := Text.trimEnd (sanitize piece.text) } := by
  have hsome : piece.text.isEmpty = false :=
    List.isEmpty_eq_false_iff.mpr (List.ne_nil_of_mem (List.mem_of_mem_filter hc))
  have hcut : (Text.trimEnd (sanitize piece.text)).isEmpty = false :=
    List.isEmpty_eq_false_iff.mpr (trimEnd_ne_nil hc hshown)
  have hle := (trimEnd_isPrefix (sanitize piece.text)).length_le
  rw [spanOf?, spanOf?, hsome, hcut, sanitize_trimEnd_sanitize]
  cases piece.style with
  | none => rfl
  | some style => simp [cut, hle]

/-- A piece with something that is shown, and nothing but blank pieces behind it: a text that ends
so is cut in that piece. -/
theorem trimEnd_ofPieces (before : List Piece) {piece : Piece} {after : List Piece} {c : Char}
    (hc : c ∈ sanitize piece.text) (hshown : Text.isBlank c = false)
    (hafter : ∀ p ∈ after, p.style = none ∧ ∀ c ∈ sanitize p.text, Text.isBlank c = true) :
    (ofPieces (before ++ piece :: after)).trimEnd =
      ofPieces (before ++ [{ piece with text := Text.trimEnd (sanitize piece.text) }]) := by
  have hblank : ∀ c ∈ (ofPieces after).plain, Text.isBlank c = true := by
    intro c hc
    obtain ⟨p, hp, hc⟩ := List.mem_flatMap.mp hc
    exact (hafter p hp).2 c hc
  have hplain : Text.trimEnd (ofPieces (before ++ piece :: after)).plain =
      (ofPieces before).plain ++ Text.trimEnd (sanitize piece.text) := by
    rw [plain_ofPieces_append, plain_ofPieces_cons]
    exact trimEnd_append hc hshown hblank _
  have hspans : (ofPieces (before ++ piece :: after)).spans =
      spansFrom 0 before ++ (spanOf? (ofPieces before).plain.length piece).toList := by
    have hnone : spansFrom ((ofPieces before).plain.length + (sanitize piece.text).length) after =
        [] := spansFrom_unstyled fun p hp => (hafter p hp).1
    change spansFrom 0 (before ++ piece :: after) = _
    rw [spansFrom_append, Nat.zero_add, spansFrom, hnone, List.append_nil]
  have hlength : (Text.trimEnd (ofPieces (before ++ piece :: after)).plain).length =
      (ofPieces before).plain.length + (Text.trimEnd (sanitize piece.text)).length := by
    rw [hplain, List.length_append]
  have hpos := List.length_pos_iff.mpr (trimEnd_ne_nil hc hshown)
  -- The spans in front end before the piece, which is not cut away as a whole.
  have hfront : ∀ s ∈ spansFrom 0 before, s.start ≤ s.stop ∧
      s.stop ≤ (ofPieces before).plain.length := by
    intro s hs
    have := bounds_of_mem_spansFrom hs
    omega
  rw [trimEnd_of_starts]
  · have hkept := map_cut_of_stops fun s (hs : s ∈ spansFrom 0 before) =>
      (hfront s hs).2.trans (Nat.le.intro hlength.symm)
    rw [hspans, List.map_append, hkept, hlength, ← Option.toList_map, cut_spanOf? hc hshown, hplain,
      ofPieces_concat, sanitize_trimEnd_sanitize]
  · intro s hs
    rw [hspans, List.mem_append] at hs
    rcases hs with hs | hs
    · have := hfront s hs
      omega
    · have := of_mem_spanOf? hs
      omega
  · intro s hs
    have := bounds_of_mem_spansFrom hs
    omega

theorem mem_sanitize {t : Text} {c : Char} (h : c ∈ t) (hc : isControl c = false) :
    c ∈ sanitize t := by
  apply List.mem_filter.mpr
  exact ⟨h, by rw [hc]; rfl⟩

theorem colon_mem_recordLine (r : Record) : ':' ∈ sanitize (Report.recordLine r) := by
  apply mem_sanitize
  · simp [Report.recordLine]
  · decide

theorem s_mem_metricsText (m : Metrics) : 's' ∈ sanitize ('\n' :: Report.metricsText m) := by
  apply mem_sanitize
  · exact List.mem_cons_of_mem _ (List.mem_append_right _ (by decide))
  · decide

theorem advances_groupPieces (group : Text × List Record) :
    Advances (Report.groupPieces group) :=
  ((advances_line _ _).append (.flatMap (fun _ => advances_line _ _) _)).append
    (advances_unstyled _)

theorem advances_heading (count : Nat) :
    Advances [⟨"Found " ++ Text.ofNat count ++ (if count = 1 then " type error"
      else " type errors").toList ++ [':', '\n', '\n'], some .boldRed⟩] :=
  advances_wide (c := 'F') (mem_sanitize (by simp) (by decide))

theorem advances_pieces (report : Report) (showMetrics : Bool) :
    Advances (report.pieces showMetrics) := by
  unfold Report.pieces
  apply Advances.append
  · split
    · exact advances_wide (c := 'N') (by decide)
    · have hhead := advances_heading report.errors.length
      exact hhead.append (.flatMap advances_groupPieces (Report.byFile report.errors))
  · split
    · exact advances_wide (s_mem_metricsText _)
    · exact advances_nil

theorem wellSpaced_styled (report : Report) (showMetrics : Bool) :
    WellSpaced (report.styled showMetrics) :=
  (advances_pieces report showMetrics).wellSpaced.trimEnd

/-- The spans in the colour of a severity, with the texts under them. -/
def recordMarks (t : Styled) : List (Style × Text) :=
  (marks t).filter fun mark => mark.1 == .red || mark.1 == .yellow

def recordMark (r : Record) : Style × Text :=
  (if r.severity = .error then .red else .yellow, sanitize (Report.recordLine r))

theorem mark?_recordPiece (r : Record) : mark? (recordPiece r) = some (recordMark r) := by
  have hsome : (Report.recordLine r).isEmpty = false := by simp [Report.recordLine]
  rw [mark?, recordPiece, hsome, recordMark]
  cases hseverity : r.severity <;> rfl

theorem recordMarks_ofPieces (pieces : List Piece) :
    recordMarks (ofPieces pieces) = (pieces.filter isRecordPiece).filterMap mark? := by
  rw [recordMarks, marks_ofPieces, List.filter_filterMap, List.filterMap_filter]
  refine List.filterMap_congr fun piece hpiece => ?_
  unfold mark? isRecordPiece
  cases piece.style with
  | none => simp
  | some style => cases piece.text.isEmpty <;> simp [Option.filter]

def feeds : List Piece := [⟨['\n'], none⟩, ⟨['\n'], none⟩]

theorem of_mem_feeds {piece : Piece} (h : piece ∈ feeds) :
    piece.style = none ∧ ∀ c ∈ sanitize piece.text, Text.isBlank c = true := by
  simp only [feeds, List.mem_cons, List.not_mem_nil, or_false, or_self] at h
  subst h
  refine ⟨rfl, fun c hc => ?_⟩
  obtain rfl := List.mem_singleton.mp (List.mem_of_mem_filter hc)
  decide

theorem exists_groupPieces_eq {group : Text × List Record} (h : group.2 ≠ []) :
    ∃ before r, Report.groupPieces group = before ++ recordPiece r :: feeds := by
  obtain ⟨records, r, hrecords⟩ := (List.eq_nil_or_concat group.2).resolve_left h
  refine ⟨[⟨group.1, some .underline⟩, ⟨['\n'], none⟩] ++
    records.flatMap fun r => [recordPiece r, ⟨['\n'], none⟩], r, ?_⟩
  rw [Report.groupPieces, hrecords, List.concat_eq_append, List.flatMap_append]
  simp [recordPiece, feeds]

theorem ne_nil_of_mem_byFile {errors : List Record} {group : Text × List Record}
    (h : group ∈ Report.byFile errors) : group.2 ≠ [] := by
  obtain ⟨file, hfile, rfl⟩ := List.mem_map.mp h
  obtain ⟨r, hr, rfl⟩ := List.mem_map.mp (List.mem_eraseDups.mp hfile)
  exact List.ne_nil_of_mem (List.mem_filter.mpr ⟨hr, beq_self_eq_true _⟩)

theorem exists_flatMap_groupPieces_eq {errors : List Record} (h : errors ≠ []) :
    ∃ before r, (Report.byFile errors).flatMap Report.groupPieces =
      before ++ recordPiece r :: feeds := by
  rcases List.eq_nil_or_concat (Report.byFile errors) with hnil | ⟨groups, group, hgroups⟩
  · obtain ⟨r, hr⟩ := List.exists_mem_of_ne_nil errors h
    have hmem : r ∈ gather Record.file errors := mem_gather.mpr hr
    rw [gather, show groupBy Record.file errors = [] from hnil] at hmem
    cases hmem
  · have hgroup : group ∈ Report.byFile errors := by simp [hgroups]
    obtain ⟨before, r, hbefore⟩ := exists_groupPieces_eq (ne_nil_of_mem_byFile hgroup)
    refine ⟨groups.flatMap Report.groupPieces ++ before, r, ?_⟩
    rw [hgroups, List.concat_eq_append, List.flatMap_append, List.flatMap_singleton, hbefore,
      List.append_assoc]

/-- The lines of the records, grouped by file, in their colours. -/
def recordLines (report : Report) : List (Style × Text) :=
  ((Report.byFile report.errors).flatMap Prod.snd).map recordMark

def trimMark (mark : Style × Text) : Style × Text := (mark.1, Text.trimEnd mark.2)

theorem filterMap_mark?_pieces (report : Report) (showMetrics : Bool) :
    ((report.pieces showMetrics).filter isRecordPiece).filterMap mark? = recordLines report := by
  rw [filter_isRecordPiece_pieces, List.filterMap_map]
  exact List.filterMap_eq_map_iff_forall_eq_some.mpr fun r _ => mark?_recordPiece r

theorem recordMarks_of_shown {report : Report} {showMetrics : Bool} {m : Metrics}
    (h : report.shown showMetrics = some m) :
    recordMarks (report.styled showMetrics) = recordLines report := by
  obtain ⟨front, hpieces⟩ : ∃ front, report.pieces showMetrics =
      front ++ [⟨'\n' :: Report.metricsText m, some .dim⟩] := ⟨_, by rw [Report.pieces, h]⟩
  have hfigures (t : Text) : [⟨t, some .dim⟩].filter isRecordPiece = [] := rfl
  have hlines := filterMap_mark?_pieces report showMetrics
  rw [hpieces, List.filter_append, hfigures, List.append_nil] at hlines
  rw [Report.styled, hpieces,
    trimEnd_ofPieces front (s_mem_metricsText m) (by decide)
      (fun p hp => absurd hp List.not_mem_nil),
    recordMarks_ofPieces, List.filter_append, hfigures, List.append_nil, hlines]

theorem filterMap_mark?_cut (r : Record) :
    ([{ recordPiece r with text := Text.trimEnd (sanitize (Report.recordLine r)) }].filter
      isRecordPiece).filterMap mark? = [trimMark (recordMark r)] := by
  have hsome : (Text.trimEnd (sanitize (Report.recordLine r))).isEmpty = false :=
    List.isEmpty_eq_false_iff.mpr (trimEnd_ne_nil (colon_mem_recordLine r) (by decide))
  cases hseverity : r.severity <;>
    simp [recordPiece, Report.recordStyle, isRecordPiece, mark?, hsome, hseverity, trimMark,
      recordMark, sanitize_trimEnd_sanitize]

theorem recordMarks_of_not_shown {report : Report} {showMetrics : Bool}
    (h : report.shown showMetrics = none) :
    recordMarks (report.styled showMetrics) = (recordLines report).modifyLast trimMark := by
  cases herrors : report.errors with
  | nil =>
      rw [recordLines, Report.styled, Report.pieces, herrors, h]
      decide +kernel
  | cons first errors =>
      obtain ⟨before, r, hends⟩ :=
        exists_flatMap_groupPieces_eq (List.cons_ne_nil first errors)
      obtain ⟨front, hpieces⟩ : ∃ front,
          report.pieces showMetrics = front ++ recordPiece r :: feeds := by
        rw [Report.pieces, herrors, h, List.append_nil]
        dsimp only
        rw [hends]
        apply Exists.intro
        exact List.cons_append.symm
      have hrecord : (recordPiece r :: feeds).filter isRecordPiece = [recordPiece r] := by
        cases hseverity : r.severity <;>
          simp [recordPiece, Report.recordStyle, isRecordPiece, hseverity, feeds]
      have hstyled : report.styled showMetrics = ofPieces (front ++
          [{ recordPiece r with text := Text.trimEnd (sanitize (Report.recordLine r)) }]) := by
        rw [Report.styled, hpieces]
        exact trimEnd_ofPieces front (colon_mem_recordLine r) (by decide) fun _ => of_mem_feeds
      have hlines := filterMap_mark?_pieces report showMetrics
      rw [hpieces, List.filter_append, hrecord, List.filterMap_append, List.filterMap_cons,
        mark?_recordPiece, List.filterMap_nil] at hlines
      rw [hstyled, recordMarks_ofPieces, List.filter_append, List.filterMap_append, ← hlines,
        List.modifyLast_concat]
      congr 1
      exact filterMap_mark?_cut r

theorem render?_eq_ok_iff {report : Report} {showMetrics : Bool} {format : Format} {t : Text} :
    report.render? showMetrics format = .ok t ↔
      (∀ n ∈ report.numbers showMetrics format, Text.isSpellable n = true) ∧
        report.render showMetrics format = t := by
  unfold Report.render?
  split
  · next h =>
      have hall := List.all_eq_true.mp h
      constructor
      · intro heq
        exact ⟨hall, Except.ok.inj heq⟩
      · rintro ⟨-, rfl⟩
        rfl
  · next h =>
      refine iff_of_false nofun fun hspelled => h ?_
      exact List.all_eq_true.mpr hspelled.1

/-- A report has a coloured text exactly if its numbers can be spelled. The spans lie in the text,
one after the other, and there is one in the colour of a severity for each record, in the order of
the groups, over the line of the record; only the last of these lines may be trimmed. -/
theorem spans_of_report (report : Report) (showMetrics : Bool) :
    (∀ t, report.render? showMetrics .human = .ok t ↔
      (∀ n ∈ report.numbers showMetrics .human, Text.isSpellable n = true) ∧
        (report.styled showMetrics).plain = t) ∧
    WellSpaced (report.styled showMetrics) ∧
    recordMarks (report.styled showMetrics) =
      match report.shown showMetrics with
      | some _ => recordLines report
      | none => (recordLines report).modifyLast trimMark := by
  refine ⟨fun t => render?_eq_ok_iff, wellSpaced_styled report showMetrics, ?_⟩
  split
  · next m h => exact recordMarks_of_shown h
  · next h => exact recordMarks_of_not_shown h

/-- A file name of which nothing is left, and a message with a blank end. -/
example : (Report.styled
      ⟨[⟨['\x07'], 1, 2, ['c'], ['x', '\r', ' '], .warning⟩], none⟩ false).spans =
    [⟨0, 21, .boldRed⟩, ⟨21, 21, .underline⟩, ⟨22, 31, .yellow⟩] := by decide +kernel

/-- A report with one record has no coloured text, and so no spans. -/
theorem not_rendered_lasting :
    (lasting (Nat.pow 10 Text.maxDigits)).errors.length = 1 ∧
      ∀ t, (lasting (Nat.pow 10 Text.maxDigits)).render? true .human ≠ .ok t := by
  refine ⟨rfl, fun t h => ?_⟩
  have hspelled := (render?_eq_ok_iff.mp h).1 (Nat.pow 10 Text.maxDigits)
    (List.mem_append_right _ (List.mem_cons_of_mem _ List.mem_cons_self))
  exact absurd hspelled (by decide +kernel)

end Recheck.Proofs.ColouredText
