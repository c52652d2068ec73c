import Recheck.Diagnostic.Pattern
import Recheck.Proofs.ListingSteps

/-!
Message lines by their pattern. The parts of a line are what the groups of the first match of the
pattern took. The pattern tries every file that may stand at the start of a line, the shortest
first, and behind each file the places and the ends of the line.
-/

namespace Recheck.Proofs.MessagePatterns

open Recheck.Text
open Recheck.MessageLine
open Recheck.Proofs.LineParts
open Recheck.Proofs.ListingSteps
open Recheck.Proofs.Listings
open Recheck.Proofs.MessageLines

variable {γ α : Type} {accepts : Char → Bool} {t : Text}

/-- What the first match leads to that leads to something. -/
def find (p : Pattern γ) (t : Text) (f : Match γ → Option α) : Option α :=
  (p.candidates t).findSome? f

theorem findSome?_flatMap {ι κ : Type} (l : List ι) (g : ι → List κ) (f : κ → Option α) :
    (l.flatMap g).findSome? f = l.findSome? fun a => (g a).findSome? f := by
  induction l with
  | nil => rfl
  | cons a l ih =>
      rw [List.flatMap_cons, List.findSome?_append, ih, List.findSome?_cons]
      cases (g a).findSome? f <;> rfl

section Find

variable (p q : Pattern γ) (f : Match γ → Option α)

theorem find_word (w : Text) :
    find (.word w) t f = (dropHead? w t).bind fun rest => f ⟨w, [], rest⟩ := by
  rw [find, Pattern.candidates]
  cases dropHead? w t with
  | none => rfl
  | some rest => exact List.findSome?_singleton

theorem find_seq :
    find (.seq p q) t f = find p t fun m => find q m.rest fun n => f (m.append n) := by
  rw [find, Pattern.candidates, findSome?_flatMap]
  simp only [List.findSome?_map]
  rfl

theorem find_or : find (.or p q) t f = (find p t f).or (find q t f) := List.findSome?_append

theorem find_maybe : find (.maybe p) t f = (find p t f).or (f (.nothing t)) := by
  rw [find, Pattern.candidates, List.findSome?_append, List.findSome?_singleton]
  rfl

theorem find_group (name : γ) : find (.group name p) t f = find p t fun m => f (m.named name) := by
  rw [find, Pattern.candidates, List.findSome?_map]
  rfl

theorem first?_seq :
    (Pattern.seq p q).first? t = find p t fun m => (q.first? m.rest).map m.append := by
  rw [Pattern.first?, Pattern.candidates, List.head?_flatMap]
  simp only [List.head?_map]
  rfl

theorem first?_word_append (w t : Text) :
    (Pattern.seq (.word w) q).first? (w ++ t) =
      (q.first? t).map fun n => ⟨w ++ n.taken, n.groups, n.rest⟩ := by
  rw [first?_seq, find_word, dropHead?_append]
  rfl

end Find

theorem findSome?_cuts {f : Text × Text → Option α} {before rest : Text} {found : α}
    (hbefore : ∀ c ∈ before, accepts c = true)
    (hfewer : ∀ a b, a ++ b = before ++ rest → a.length < before.length → f (a, b) = none)
    (hfound : f (before, rest) = some found) :
    (cuts accepts (before ++ rest)).findSome? f = some found := by
  induction before generalizing f with
  | nil =>
      cases rest with
      | nil => simpa [cuts] using hfound
      | cons c rest => simp [cuts, hfound]
  | cons c before ih =>
      obtain ⟨hc, hbefore⟩ := List.forall_mem_cons.mp hbefore
      have hnone : f ([], c :: (before ++ rest)) = none := hfewer [] _ rfl (by simp)
      rw [List.cons_append, cuts, List.findSome?_cons, hnone, if_pos hc, List.findSome?_map]
      refine ih hbefore (fun a b hab hlt => ?_) hfound
      exact hfewer (c :: a) b (congrArg (c :: ·) hab) (Nat.succ_lt_succ hlt)

theorem find_many {f : Match γ → Option α} {before rest : Text}
    (hbefore : ∀ c ∈ before, accepts c = true) (hrest : ∀ c ∈ rest.head?, accepts c = false)
    (hshy : ∀ m c, m.rest.head? = some c → accepts c = true → f m = none) :
    find (.many accepts) (before ++ rest) f = f ⟨before, [], rest⟩ := by
  rw [find, Pattern.candidates, List.findSome?_map]
  -- The function is taken along, because the induction puts characters in front of a match.
  suffices hcuts : ∀ g : Text × Text → Option α,
      (∀ a c b, accepts c = true → g (a, c :: b) = none) →
      (cuts accepts (before ++ rest)).reverse.findSome? g = g (before, rest) from
    hcuts _ fun a c b hc => hshy ⟨a, [], c :: b⟩ c rfl hc
  clear hshy
  induction before with
  | nil =>
      intro g hg
      cases rest with
      | nil => simp [cuts]
      | cons c rest => simp [cuts, hrest c rfl]
  | cons c before ih =>
      intro g hg
      obtain ⟨hc, hbefore⟩ := List.forall_mem_cons.mp hbefore
      rw [List.cons_append, cuts, if_pos hc, List.reverse_cons, List.findSome?_append,
        ← List.map_reverse, List.findSome?_map,
        ih hbefore (g ∘ fun cut => (c :: cut.1, cut.2)) fun a d b hd => hg (c :: a) d b hd,
        List.findSome?_singleton, hg [] c _ hc, Option.or_none]
      rfl

theorem find_one (c : Char) (t : Text) (f : Match γ → Option α) :
    find (.one accepts) (c :: t) f = if accepts c then f ⟨[c], [], t⟩ else none := by
  rw [find, Pattern.candidates]
  split
  · exact List.findSome?_singleton
  · rfl

theorem find_oneOrMore {f : Match γ → Option α} {before rest : Text} (hne : before ≠ [])
    (hbefore : ∀ c ∈ before, accepts c = true) (hrest : ∀ c ∈ rest.head?, accepts c = false)
    (hshy : ∀ m c, m.rest.head? = some c → accepts c = true → f m = none) :
    find (.oneOrMore accepts) (before ++ rest) f = f ⟨before, [], rest⟩ := by
  obtain ⟨c, before, rfl⟩ := List.exists_cons_of_ne_nil hne
  obtain ⟨hc, hbefore⟩ := List.forall_mem_cons.mp hbefore
  rw [Pattern.oneOrMore, find_seq, List.cons_append, find_one, if_pos hc]
  exact find_many hbefore hrest fun m d => hshy (Match.append _ m) d

theorem mem_cuts {before rest : Text} (h : (before, rest) ∈ cuts accepts t) :
    t = before ++ rest ∧ ∀ c ∈ before, accepts c = true := by
  induction t generalizing before with
  | nil => simp_all [cuts]
  | cons c t ih =>
      rcases List.mem_cons.mp h with heq | h
      · obtain ⟨rfl, rfl⟩ := Prod.mk.inj heq
        exact ⟨rfl, by simp⟩
      · split at h
        · next hc =>
            obtain ⟨⟨before', rest'⟩, hmem, heq⟩ := List.mem_map.mp h
            obtain ⟨rfl, rfl⟩ := Prod.mk.inj heq
            obtain ⟨rfl, hbefore⟩ := ih hmem
            exact ⟨rfl, List.forall_mem_cons.mpr ⟨hc, hbefore⟩⟩
        · cases h

section Candidates

variable {p q : Pattern γ} {m : Match γ}

theorem of_mem_word {w : Text} (h : m ∈ (Pattern.word w).candidates t) :
    ∃ rest, t = w ++ rest ∧ m = ⟨w, [], rest⟩ := by
  obtain ⟨rest, hrest, rfl⟩ := Option.map_eq_some_iff.mp (Option.mem_toList.mp h)
  exact ⟨rest, eq_append_of_dropHead? hrest, rfl⟩

theorem of_mem_seq (h : m ∈ (Pattern.seq p q).candidates t) :
    ∃ a ∈ p.candidates t, ∃ b ∈ q.candidates a.rest, m = a.append b := by
  obtain ⟨a, ha, hm⟩ := List.mem_flatMap.mp h
  obtain ⟨b, hb, rfl⟩ := List.mem_map.mp hm
  exact ⟨a, ha, b, hb, rfl⟩

theorem of_mem_maybe (h : m ∈ (Pattern.maybe p).candidates t) :
    m ∈ p.candidates t ∨ m = .nothing t := by
  simpa [Pattern.candidates] using h

theorem of_mem_group {name : γ} (h : m ∈ (Pattern.group name p).candidates t) :
    ∃ a ∈ p.candidates t, m = a.named name := by
  obtain ⟨a, ha, rfl⟩ := List.mem_map.mp h
  exact ⟨a, ha, rfl⟩

theorem of_mem_one (h : m ∈ (Pattern.one accepts).candidates t) :
    ∃ c rest, t = c :: rest ∧ accepts c = true ∧ m = ⟨[c], [], rest⟩ := by
  cases t with
  | nil => cases h
  | cons c rest =>
      rw [Pattern.candidates] at h
      split at h
      · next hc => exact ⟨c, rest, rfl, hc, List.mem_singleton.mp h⟩
      · cases h

theorem of_mem_few (h : m ∈ (Pattern.few accepts).candidates t) :
    ∃ before rest, t = before ++ rest ∧ (∀ c ∈ before, accepts c = true) ∧
      m = ⟨before, [], rest⟩ := by
  obtain ⟨⟨before, rest⟩, hcut, rfl⟩ := List.mem_map.mp h
  obtain ⟨ht, hbefore⟩ := mem_cuts hcut
  exact ⟨before, rest, ht, hbefore, rfl⟩

theorem of_mem_oneOrMore (h : m ∈ (Pattern.oneOrMore accepts).candidates t) :
    ∃ before rest, t = before ++ rest ∧ before ≠ [] ∧ (∀ c ∈ before, accepts c = true) ∧
      m = ⟨before, [], rest⟩ := by
  obtain ⟨a, ha, b, hb, rfl⟩ := of_mem_seq h
  obtain ⟨c, rest, rfl, hc, rfl⟩ := of_mem_one ha
  obtain ⟨⟨before, rest'⟩, hcut, rfl⟩ := List.mem_map.mp hb
  obtain ⟨hrest, hbefore⟩ := mem_cuts (List.mem_reverse.mp hcut)
  exact ⟨c :: before, rest', congrArg (c :: ·) hrest, by simp,
    List.forall_mem_cons.mpr ⟨hc, hbefore⟩, rfl⟩

theorem of_first?_seq (h : (Pattern.seq p q).first? t = some m) :
    ∃ a ∈ p.candidates t, ∃ b, q.first? a.rest = some b ∧ m = a.append b := by
  rw [first?_seq] at h
  obtain ⟨a, ha, hm⟩ := List.exists_of_findSome?_eq_some h
  obtain ⟨b, hb, rfl⟩ := Option.map_eq_some_iff.mp hm
  exact ⟨a, ha, b, hb, rfl⟩

theorem of_first?_ending (h : (Pattern.ending : Pattern γ).first? t = some m) :
    t = [] ∨ t = ['\n'] := by
  by_contra hne
  rw [Pattern.first?, Pattern.candidates, if_neg hne] at h
  cases h

end Candidates

/-- A code with what stands around it. -/
def bracketed (code : Text) : Text := [' ', ' ', '['] ++ code ++ [']']

theorem first?_end_bracketed {code : Text} (h : IsCode code) :
    endPattern.first? (bracketed code) = some ⟨bracketed code, [(.code, code)], []⟩ := by
  obtain ⟨hne, hcode⟩ := h
  have hdrop : dropHead? [' ', ' ', '['] (bracketed code) = some (code ++ [']']) := rfl
  have hclose : ∀ c ∈ ([']'] : Text).head?, isCodeChar c = false := by
    rintro c ⟨⟩
    decide
  rw [endPattern, first?_seq, codePattern, find_maybe, find_seq, find_word, hdrop, Option.bind_some,
    find_seq, find_group, find_oneOrMore hne hcode hclose]
  · rw [find_word]
    simp [dropHead?, Pattern.first?, Pattern.candidates, Match.named, Match.append, Match.nothing,
      bracketed]
  · intro m c hm hc
    rw [find_word]
    cases hdrop : dropHead? [']'] (m.named Slot.code).rest with
    | none => rfl
    | some rest =>
        have hrest : m.rest = ']' :: rest := eq_append_of_dropHead? hdrop
        rw [hrest] at hm
        obtain rfl := Option.some.inj hm
        exact absurd hc (by decide)

theorem first?_end_nil : endPattern.first? [] = some ⟨[], [], []⟩ := rfl

theorem of_first?_end {m : Match Slot} (h : endPattern.first? t = some m)
    (hend : ¬ ['\n'] <:+ t) : t = [] ∨ ∃ code, IsCode code ∧ t = bracketed code := by
  have hrest : ∀ rest : Text, rest <:+ t → rest = [] ∨ rest = ['\n'] → rest = [] := by
    rintro rest hrest (rfl | rfl)
    · rfl
    · exact absurd hrest hend
  obtain ⟨a, ha, b, hb, rfl⟩ := of_first?_seq h
  have hover := of_first?_ending hb
  rcases of_mem_maybe ha with hbracket | rfl
  · obtain ⟨_, hopen, _, hbehind, rfl⟩ := of_mem_seq hbracket
    obtain ⟨inside, rfl, rfl⟩ := of_mem_word hopen
    obtain ⟨_, hgroup, _, hclose, rfl⟩ := of_mem_seq hbehind
    obtain ⟨_, hchars, rfl⟩ := of_mem_group hgroup
    obtain ⟨code, closed, hinside, hne, hcode, rfl⟩ := of_mem_oneOrMore hchars
    obtain ⟨rest, hclosed, rfl⟩ := of_mem_word hclose
    obtain rfl : inside = code ++ closed := hinside
    obtain rfl : closed = ']' :: rest := hclosed
    have hnil : rest = [] := hrest rest
      ⟨[' ', ' ', '['] ++ code ++ [']'], by simp⟩ hover
    exact .inr ⟨code, ⟨hne, hcode⟩, by simp [hnil, bracketed]⟩
  · exact .inl (hrest t (List.suffix_refl t) hover)

/-- The groups of a code. -/
def codeGroups (code : Option Text) : List (Slot × Text) := code.toList.map (.code, ·)

theorem not_newline_suffix (h : '\n' ∉ t) : ¬ ['\n'] <:+ t := fun hsuffix =>
  h (hsuffix.subset List.mem_cons_self)

theorem first?_end_of_ends {message : Text} {code : Option Text} (h : Ends t message code) :
    ∃ rest, t = message ++ rest ∧
      endPattern.first? rest = some ⟨rest, codeGroups code, []⟩ := by
  cases h with
  | code is_code => exact ⟨bracketed _, by simp [bracketed], first?_end_bracketed is_code⟩
  | plain no_code => exact ⟨[], by simp, first?_end_nil⟩

theorem first?_end_eq_none {message : Text} {code : Option Text} (h : Ends t message code)
    (hline : '\n' ∉ t) {before rest : Text} (ht : before ++ rest = t)
    (hlt : before.length < message.length) : endPattern.first? rest = none := by
  cases hfirst : endPattern.first? rest with
  | none => rfl
  | some m =>
      exfalso
      have hrest : '\n' ∉ rest := fun hmem => hline (ht ▸ List.mem_append_right before hmem)
      have hcut := cutCode_of_ends h
      rcases of_first?_end hfirst (not_newline_suffix hrest) with rfl | ⟨code', is_code, rfl⟩
      · obtain ⟨rest, heq, -⟩ := first?_end_of_ends h
        have hlength := congrArg List.length (ht.trans heq)
        simp only [List.append_nil, List.length_append] at hlength
        omega
      · have hcut' : cutCode (before ++ bracketed code') = (before, some code') := by
          simpa [bracketed] using cutCode_append before is_code
        rw [ht, hcut] at hcut'
        obtain ⟨rfl, -⟩ := Prod.mk.inj hcut'
        exact Nat.lt_irrefl _ hlt

theorem first?_message (hline : '\n' ∉ t) :
    messagePattern.first? t =
      some ⟨t, (.message, (cutCode t).1) :: codeGroups (cutCode t).2, []⟩ := by
  have hends := ends_cutCode t
  obtain ⟨rest, ht, hend⟩ := first?_end_of_ends hends
  have hmessage : ∀ c ∈ (cutCode t).1, isInLine c = true := by
    intro c hc
    have hmem : c ∈ t := ht ▸ List.mem_append_left rest hc
    exact bne_iff_ne.mpr fun heq => hline (heq ▸ hmem)
  rw [messagePattern, first?_seq, find_group, find, Pattern.candidates, List.findSome?_map]
  conv_lhs => rw [ht]
  refine findSome?_cuts hmessage (fun before behind heq hlt => ?_) ?_
  · exact Option.map_eq_none_iff.mpr (first?_end_eq_none hends hline (heq.trans ht.symm) hlt)
  · simp [hend, Match.named, Match.append, ← ht]

theorem of_first?_message {m : Match Slot} (h : messagePattern.first? t = some m)
    (hend : ¬ ['\n'] <:+ t) : '\n' ∉ t := by
  obtain ⟨_, hmessage, n, hn, rfl⟩ := of_first?_seq h
  obtain ⟨_, hfew, rfl⟩ := of_mem_group hmessage
  obtain ⟨message, rest, rfl, hline, rfl⟩ := of_mem_few hfew
  have hrest : ¬ ['\n'] <:+ rest := fun hsuffix => hend (hsuffix.trans (List.suffix_append _ _))
  intro hmem
  rcases List.mem_append.mp hmem with hmem | hmem
  · exact absurd (hline _ hmem) (by decide)
  · rcases of_first?_end hn hrest with hnil | ⟨code, is_code, hcode⟩
    · have hnil : rest = [] := hnil
      rw [hnil] at hmem
      cases hmem
    · have hcode : rest = bracketed code := hcode
      rw [hcode] at hmem
      simp only [bracketed, List.mem_append, List.mem_cons, List.not_mem_nil, or_false] at hmem
      rcases hmem with ((h | h | h) | hmem) | h
      · cases h
      · cases h
      · cases h
      · exact absurd (is_code.2 _ hmem) (by decide)
      · cases h

theorem find_severity (category : Category) (t : Text) (f : Match Slot → Option α) :
    find severityPattern (severityWord category ++ t) f =
      f ⟨severityWord category, [(.severity, severityWord category)], t⟩ := by
  rw [severityPattern, find_group, find_or, find_or, find_word, find_word, find_word]
  cases category <;> simp [severityWord, dropHead?, Match.named]

theorem first?_notice (category : Category) (hline : '\n' ∉ t) :
    noticePattern.first? (marker category ++ t) =
      some ⟨marker category ++ t, (.severity, severityWord category) ::
        (.message, (cutCode t).1) :: codeGroups (cutCode t).2, []⟩ := by
  have hsplit :
      marker category ++ t = [':', ' '] ++ (severityWord category ++ ([':', ' '] ++ t)) := by
    simp [marker]
  rw [hsplit, noticePattern, first?_word_append, first?_seq, find_severity, first?_word_append,
    first?_message hline]
  rfl

theorem of_mem_severity {m : Match Slot} (h : m ∈ severityPattern.candidates t) :
    ∃ category rest, t = severityWord category ++ rest ∧ m.rest = rest := by
  obtain ⟨n, hword, rfl⟩ := of_mem_group h
  have hnamed : ∃ category, n ∈ (Pattern.word (severityWord category)).candidates t := by
    rcases List.mem_append.mp hword with hword | hword
    · exact ⟨.error, hword⟩
    · rcases List.mem_append.mp hword with hword | hword
      · exact ⟨.warning, hword⟩
      · exact ⟨.message, hword⟩
  obtain ⟨category, hword⟩ := hnamed
  obtain ⟨rest, rfl, rfl⟩ := of_mem_word hword
  exact ⟨category, rest, rfl, rfl⟩

theorem of_first?_notice {m : Match Slot} (h : noticePattern.first? t = some m)
    (hend : ¬ ['\n'] <:+ t) : ∃ category after, t = marker category ++ after ∧ '\n' ∉ after := by
  obtain ⟨_, hopen, _, hnotice, -⟩ := of_first?_seq h
  obtain ⟨rest, rfl, rfl⟩ := of_mem_word hopen
  obtain ⟨_, hseverity, _, hbehind, -⟩ := of_first?_seq hnotice
  obtain ⟨category, behind, hrest, heq⟩ := of_mem_severity hseverity
  rw [heq] at hbehind
  obtain ⟨_, hclose, _, hmessage, -⟩ := of_first?_seq hbehind
  obtain ⟨after, rfl, rfl⟩ := of_mem_word hclose
  obtain rfl : rest = severityWord category ++ ([':', ' '] ++ after) := hrest
  refine ⟨category, after, by simp [marker], of_first?_message hmessage fun hsuffix => hend ?_⟩
  exact hsuffix.trans ⟨[':', ' '] ++ severityWord category ++ [':', ' '], by simp⟩

/-- The groups of a place. -/
def placeGroups (line column : Option Text) : List (Slot × Text) :=
  line.toList.map (.line, ·) ++ column.toList.map (.column, ·)

theorem of_mem_number {signed : Bool} {m : Match Slot}
    (h : m ∈ (numberPattern signed).candidates t) :
    ∃ number rest, t = number ++ rest ∧ IsNumber signed number ∧ m = ⟨number, [], rest⟩ := by
  cases signed with
  | false =>
      obtain ⟨digits, rest, rfl, hne, hdigits, rfl⟩ := of_mem_oneOrMore h
      exact ⟨digits, rest, rfl, ⟨digits, hne, hdigits, .inl rfl⟩, rfl⟩
  | true =>
      obtain ⟨_, hsign, _, hmore, rfl⟩ := of_mem_seq h
      rcases of_mem_maybe hsign with hminus | rfl
      · obtain ⟨behind, rfl, rfl⟩ := of_mem_word hminus
        obtain ⟨digits, rest, hbehind, hne, hdigits, rfl⟩ := of_mem_oneOrMore hmore
        obtain rfl : behind = digits ++ rest := hbehind
        exact ⟨'-' :: digits, rest, rfl, ⟨digits, hne, hdigits, .inr ⟨rfl, rfl⟩⟩, rfl⟩
      · obtain ⟨digits, rest, hdigits', hne, hdigits, rfl⟩ := of_mem_oneOrMore hmore
        obtain rfl : t = digits ++ rest := hdigits'
        exact ⟨digits, rest, rfl, ⟨digits, hne, hdigits, .inl rfl⟩, rfl⟩

theorem of_mem_colon {part : Slot} {signed : Bool} {m : Match Slot}
    (h : m ∈ (Pattern.seq (.word [':']) (.group part (numberPattern signed))).candidates t) :
    ∃ number rest, t = ':' :: (number ++ rest) ∧ IsNumber signed number ∧
      m = ⟨':' :: number, [(part, number)], rest⟩ := by
  obtain ⟨_, hcolon, _, hgroup, rfl⟩ := of_mem_seq h
  obtain ⟨behind, rfl, rfl⟩ := of_mem_word hcolon
  obtain ⟨_, hnumber, rfl⟩ := of_mem_group hgroup
  obtain ⟨number, rest, hbehind, is_number, rfl⟩ := of_mem_number hnumber
  obtain rfl : behind = number ++ rest := hbehind
  exact ⟨number, rest, rfl, is_number, rfl⟩

/-- Nothing comes of a match before a digit. -/
def Shy (f : Match Slot → Option α) : Prop :=
  ∀ m c, m.rest.head? = some c → Text.isDecimal c = true → f m = none

theorem find_number {signed : Bool} {f : Match Slot → Option α} (hshy : Shy f) {number rest : Text}
    (h : IsNumber signed number) (hrest : ∀ c ∈ rest.head?, Text.isDecimal c = false) :
    find (numberPattern signed) (number ++ rest) f = f ⟨number, [], rest⟩ := by
  obtain ⟨digits, hne, hdigits, hnumber⟩ := h
  have hmany : ∀ m : Match Slot, find (.oneOrMore Text.isDecimal) (digits ++ rest)
      (fun n => f (m.append n)) = f (m.append ⟨digits, [], rest⟩) := fun m =>
    find_oneOrMore hne hdigits hrest fun n c => hshy (m.append n) c
  have hminus : dropHead? ['-'] (digits ++ rest) = none := by
    cases digits with
    | nil => exact absurd rfl hne
    | cons c digits =>
        have hc : '-' ≠ c := fun heq => absurd (hdigits c List.mem_cons_self) (heq ▸ by decide)
        simp [dropHead?, hc]
  cases signed with
  | false =>
      obtain rfl | ⟨hsigned, -⟩ := hnumber
      · exact hmany (.nothing [])
      · cases hsigned
  | true =>
      rw [numberPattern, if_pos rfl, find_seq, find_maybe, find_word]
      obtain rfl | ⟨-, rfl⟩ := hnumber
      · rw [hminus]
        exact hmany (.nothing _)
      · have hdrop : dropHead? ['-'] ('-' :: digits ++ rest) = some (digits ++ rest) := rfl
        have hdigit : Text.isDecimal '-' = false := by decide
        have hsign : find (.oneOrMore Text.isDecimal) ('-' :: digits ++ rest)
            (fun n => f ((Match.nothing ('-' :: digits ++ rest)).append n)) = none := by
          rw [Pattern.oneOrMore, find_seq, List.cons_append, find_one, hdigit]
          rfl
        rw [hdrop, Option.bind_some]
        exact (congrArg₂ Option.or (hmany ⟨['-'], [], digits ++ rest⟩) hsign).trans Option.or_none

theorem find_place {part : Slot} {signed : Bool} {f : Match Slot → Option α} (hshy : Shy f)
    {number rest : Text} (h : IsNumber signed number)
    (hrest : ∀ c ∈ rest.head?, Text.isDecimal c = false) {found : α}
    (hfound : f ⟨':' :: number, [(part, number)], rest⟩ = some found) :
    find (placePattern part signed) (':' :: number ++ rest) f = some found := by
  have hcolon : dropHead? [':'] (':' :: number ++ rest) = some (number ++ rest) := rfl
  rw [placePattern, find_maybe, find_seq, find_word, hcolon, Option.bind_some, find_group]
  have hnumber :=
    @find_number _ _ (fun m => f (Match.append ⟨[':'], [], number ++ rest⟩ (m.named part)))
      (fun m c => hshy (Match.append _ (m.named part)) c) _ _ h hrest
  exact congrArg (Option.or · _) (hnumber.trans hfound)

theorem find_place_of_none {part : Slot} {signed : Bool} (f : Match Slot → Option α)
    (h : ∀ number rest, IsNumber signed number → t ≠ ':' :: (number ++ rest)) :
    find (placePattern part signed) t f = f (.nothing t) := by
  have hnone :
      (Pattern.seq (.word [':']) (.group part (numberPattern signed))).candidates t = [] := by
    rw [List.eq_nil_iff_forall_not_mem]
    intro m hm
    obtain ⟨number, rest, ht, is_number, -⟩ := of_mem_colon hm
    exact h number rest is_number ht
  rw [placePattern, find_maybe, find, hnone]
  rfl

theorem not_marker_of_number {signed : Bool} {number s rest : Text} (h : IsNumber signed number)
    (hs : s <:+ ':' :: number) (hne : s ≠ []) (category : Category) :
    ¬ marker category <+: s ++ rest :=
  not_marker_isPrefix_of_number h.ne_nil h.colon_notMem (h.notMem (by decide) (by decide)) hs hne
    category

theorem not_colon_number {signed : Bool} (category : Category) (t : Text) {number rest : Text}
    (h : IsNumber signed number) : marker category ++ t ≠ ':' :: (number ++ rest) := fun heq =>
  not_marker_of_number h (List.suffix_refl _) (List.cons_ne_nil _ _) category ⟨t, heq⟩

theorem shy_of_colon {q : Pattern Slot}
    (h : ∀ t m, q.first? t = some m → t.head? = some ':') :
    Shy fun m => (q.first? m.rest).map m.append := by
  intro m c hm hc
  dsimp only
  cases hfirst : q.first? m.rest with
  | none => rfl
  | some n =>
      obtain rfl := Option.some.inj (hm.symm.trans (h _ n hfirst))
      exact absurd hc (by decide)

theorem colon_of_first?_notice (t : Text) (m : Match Slot)
    (h : noticePattern.first? t = some m) : t.head? = some ':' := by
  obtain ⟨_, hopen, -⟩ := of_first?_seq h
  obtain ⟨rest, rfl, -⟩ := of_mem_word hopen
  rfl

theorem colon_of_first?_column (t : Text) (m : Match Slot)
    (h : columnPattern.first? t = some m) : t.head? = some ':' := by
  obtain ⟨_, hplace, n, hn, -⟩ := of_first?_seq h
  rcases of_mem_maybe hplace with hcolumn | rfl
  · obtain ⟨number, rest, rfl, -⟩ := of_mem_colon hcolumn
    rfl
  · exact colon_of_first?_notice t n hn

theorem first?_column_marker (category : Category) (t : Text) :
    columnPattern.first? (marker category ++ t) = noticePattern.first? (marker category ++ t) := by
  rw [columnPattern, first?_seq, find_place_of_none _ fun _ _ => not_colon_number category t]
  exact Option.map_id'

/-- Behind a file, the place is read as far as it goes. -/
theorem first?_line {place : Text} {line column : Option Text} (h : Reads place [] line column)
    {category : Category} {found : Match Slot}
    (hfound : noticePattern.first? (marker category ++ t) = some found) :
    linePattern.first? (place ++ (marker category ++ t)) =
      some ⟨place ++ found.taken, placeGroups line column ++ found.groups, found.rest⟩ := by
  have hcolumn := first?_column_marker category t
  have hmarker : ∀ c ∈ (marker category ++ t).head?, Text.isDecimal c = false := by
    rintro c ⟨⟩
    decide
  rw [linePattern, first?_seq]
  cases h with
  | file =>
      rw [List.nil_append, find_place_of_none _ fun _ _ => not_colon_number category t]
      exact congrArg _ (hcolumn.trans hfound)
  | line is_line =>
      refine find_place (shy_of_colon colon_of_first?_column) is_line hmarker ?_
      dsimp only
      rw [hcolumn, hfound]
      rfl
  | @column _ line column is_line is_column =>
      have hplace : [] ++ ':' :: line ++ ':' :: column ++ (marker category ++ t) =
          ':' :: line ++ (':' :: column ++ (marker category ++ t)) := by simp
      rw [hplace]
      refine find_place (shy_of_colon colon_of_first?_column) is_line (by rintro c ⟨⟩; decide) ?_
      dsimp only
      have hbehind : columnPattern.first? (':' :: column ++ (marker category ++ t)) =
          some (Match.append ⟨':' :: column, [(.column, column)], marker category ++ t⟩ found) := by
        rw [columnPattern, first?_seq]
        refine find_place (shy_of_colon colon_of_first?_notice) is_column hmarker ?_
        dsimp only
        rw [hfound]
        rfl
      rw [hbehind]
      simp [Match.append, placeGroups]

theorem of_first?_column {m : Match Slot} (h : columnPattern.first? t = some m)
    (hend : ¬ ['\n'] <:+ t) : (∃ category after, t = marker category ++ after ∧ '\n' ∉ after) ∨
      ∃ column category after, IsNumber false column ∧
        t = ':' :: (column ++ (marker category ++ after)) ∧ '\n' ∉ after := by
  obtain ⟨_, hplace, _, hnotice, -⟩ := of_first?_seq h
  rcases of_mem_maybe hplace with hcolumn | rfl
  · obtain ⟨column, rest, rfl, is_column, rfl⟩ := of_mem_colon hcolumn
    have hrest : ¬ ['\n'] <:+ rest := fun hsuffix =>
      hend (hsuffix.trans ⟨':' :: column, by simp⟩)
    obtain ⟨category, after, heq, hafter⟩ := of_first?_notice hnotice hrest
    obtain rfl : rest = marker category ++ after := heq
    exact .inr ⟨column, category, after, is_column, rfl, hafter⟩
  · exact .inl (of_first?_notice hnotice hend)

theorem of_first?_line {m : Match Slot} (h : linePattern.first? t = some m)
    (hend : ¬ ['\n'] <:+ t) : ∃ place line column category after,
      Reads place [] line column ∧ t = place ++ (marker category ++ after) ∧ '\n' ∉ after := by
  obtain ⟨_, hplace, _, hbehind, -⟩ := of_first?_seq h
  rcases of_mem_maybe hplace with hline | rfl
  · obtain ⟨line, rest, rfl, is_line, rfl⟩ := of_mem_colon hline
    have hrest : ¬ ['\n'] <:+ rest := fun hsuffix =>
      hend (hsuffix.trans ⟨':' :: line, by simp⟩)
    rcases of_first?_column hbehind hrest with ⟨category, after, heq, hafter⟩ |
      ⟨column, category, after, is_column, heq, hafter⟩
    · obtain rfl : rest = _ := heq
      exact ⟨_, _, _, category, after, .line is_line, rfl, hafter⟩
    · obtain rfl : rest = _ := heq
      exact ⟨_, _, _, category, after, .column is_line is_column, by simp, hafter⟩
  · rcases of_first?_column hbehind hend with ⟨category, after, rfl, hafter⟩ |
      ⟨column, category, after, is_column, rfl, hafter⟩
    · exact ⟨_, _, _, category, after, .file [], rfl, hafter⟩
    · exact ⟨_, _, _, category, after, .line is_column.signed, rfl, hafter⟩

theorem exists_behind {place file : Text} {line column : Option Text}
    (h : Reads place file line column) :
    ∃ behind, place = file ++ behind ∧ Reads behind [] line column := by
  cases h with
  | file => exact ⟨[], by simp, .file []⟩
  | @line _ line is_line => exact ⟨':' :: line, rfl, @Reads.line [] line is_line⟩
  | @column _ line column is_line is_column =>
      exact ⟨':' :: line ++ ':' :: column, by simp, @Reads.column [] line column is_line is_column⟩

theorem reads_append {place : Text} {line column : Option Text}
    (h : Reads place [] line column) (file : Text) : Reads (file ++ place) file line column := by
  cases h with
  | file => simpa using Reads.file file
  | line is_line => exact .line is_line
  | @column _ line column is_line is_column =>
      simpa using @Reads.column file line column is_line is_column

theorem feed_notMem_place {place : Text} {line column : Option Text}
    (h : Reads place [] line column) : '\n' ∉ place := by
  cases h with
  | file => exact List.not_mem_nil
  | line is_line => simp [is_line.feed_notMem]
  | column is_line is_column => simp [is_line.feed_notMem, is_column.feed_notMem]

theorem not_marker_of_suffix {place s rest : Text} {line column : Option Text}
    (h : Reads place [] line column) (hs : s <:+ place) (hne : s ≠ []) (category : Category) :
    ¬ marker category <+: s ++ rest := by
  cases h with
  | file => exact absurd (List.suffix_nil.mp hs) hne
  | line is_line => exact not_marker_of_number is_line hs hne category
  | @column _ line column is_line is_column =>
      rcases List.suffix_or_suffix_of_suffix hs (List.suffix_append ([] ++ ':' :: line) _) with
        hcolumn | ⟨s', rfl⟩
      · exact not_marker_of_number is_column hcolumn hne category
      · by_cases hnil : s' = []
        · subst hnil
          exact not_marker_of_number is_column (List.suffix_refl _) hne category
        · obtain ⟨before, hbefore⟩ := hs
          rw [← List.append_assoc, List.append_cancel_right_eq] at hbefore
          rw [List.append_assoc]
          exact not_marker_of_number is_line ⟨before, hbefore⟩ hnil category

/-- The parts of a line, as a match has them. -/
def partGroups (parts : MessageLine) : List (Slot × Text) :=
  (.file, parts.file) :: placeGroups parts.line parts.column ++
    (.severity, severityWord parts.category) :: (.message, parts.message) :: codeGroups parts.code

theorem ofMatch?_partGroups (parts : MessageLine) (taken rest : Text) :
    ofMatch? ⟨taken, partGroups parts, rest⟩ = some parts := by
  obtain ⟨file, line, column, category, message, code⟩ := parts
  cases line <;> cases column <;> cases category <;> cases code <;> rfl

theorem length_file_le {text file place after : Text} {i : Nat} {parts : MessageLine}
    {line column : Option Text} {category : Category} (h : CutAt text i parts) (hne : file ≠ [])
    (hreads : Reads place [] line column)
    (heq : text = file ++ (place ++ (marker category ++ after))) :
    parts.file.length ≤ file.length := by
  have hpos := List.length_pos_iff.mpr hne
  have hmarked : MarkedAt text (file.length + place.length) category := by
    refine ⟨by omega, after, ?_⟩
    rw [heq, ← List.append_assoc file, ← List.length_append, List.drop_left]
  have hfirst := h.first _ _ hmarked
  by_contra hlt
  rw [Nat.not_le] at hlt
  rcases Nat.lt_or_ge i (file.length + place.length) with hi | hi
  · -- The severity of the line would start inside of the place.
    obtain ⟨behind, hbehind⟩ := h.place.reads.exists_suffix
    have hfile : parts.file.length ≤ i := by
      have hlength := congrArg List.length hbehind
      rw [List.length_take, List.length_append] at hlength
      omega
    have hinside : place.drop (i - file.length) ≠ [] := by
      rw [Ne, List.drop_eq_nil_iff]
      omega
    have hmarker := h.marked.2
    rw [heq, List.drop_append, List.drop_eq_nil_of_le (by omega), List.nil_append,
      List.drop_append_of_le_length (by omega)] at hmarker
    exact not_marker_of_suffix hreads (List.drop_suffix _ place) hinside parts.category hmarker
  · obtain rfl : i = file.length + place.length := Nat.le_antisymm hfirst hi
    have htake : text.take (file.length + place.length) = file ++ place := by
      rw [heq, ← List.append_assoc, ← List.length_append, List.take_left]
    have hshortest := h.place.shortest file line column (htake ▸ reads_append hreads file) hne
    omega

/-- Behind a file that is shorter than that of the line, the rest of the pattern does not match. -/
theorem first?_line_eq_none {line file rest : Text} {i : Nat} {parts : MessageLine}
    (h : CutAt line i parts) (hline : line = file ++ rest) (hne : file ≠ [])
    (hlt : file.length < parts.file.length) : linePattern.first? rest = none := by
  by_contra hsome
  obtain ⟨m, hm⟩ := Option.ne_none_iff_exists'.mp hsome
  have hfeed : '\n' ∉ rest := fun hmem => h.one_line (hline ▸ List.mem_append_right _ hmem)
  obtain ⟨place, _, _, category, after, hreads, rfl, -⟩ :=
    of_first?_line hm (not_newline_suffix hfeed)
  exact Nat.not_lt.mpr (length_file_le h hne hreads hline) hlt

theorem first?_pattern {line : Text} {i : Nat} {parts : MessageLine} (h : CutAt line i parts) :
    pattern.first? line = some ⟨line, partGroups parts, []⟩ := by
  obtain ⟨-, after, hafter⟩ := h.marked
  obtain ⟨place, hplace, hreads⟩ := exists_behind h.place.reads
  have hending : cutCode after = (parts.message, parts.code) := by
    refine cutCode_of_ends ?_
    have hdrop : line.drop (i + (marker parts.category).length) = after := by
      rw [← List.drop_drop, ← hafter, List.drop_left]
    exact hdrop ▸ h.ending
  have hline : line = parts.file ++ (place ++ (marker parts.category ++ after)) := by
    rw [← List.append_assoc, ← hplace, hafter, List.take_append_drop]
  have hinLine : ∀ c ∈ line, isInLine c = true := fun c hc =>
    bne_iff_ne.mpr fun heq => h.one_line (heq ▸ hc)
  have hafter : '\n' ∉ after := fun hmem => h.one_line (by rw [hline]; simp [hmem])
  have hfound := first?_line hreads (first?_notice parts.category hafter)
  obtain ⟨c, name, hfile⟩ := List.exists_cons_of_ne_nil h.place.file_ne
  rw [hfile] at hline
  obtain ⟨hc, hname⟩ := List.forall_mem_cons.mp (hline ▸ hinLine)
  rw [pattern, first?_seq, filePattern, find_group, find_seq, hline, List.cons_append, find_one,
    if_pos hc, find, Pattern.candidates, List.findSome?_map]
  refine findSome?_cuts (fun c hc => hname c (List.mem_append_left _ hc)) ?_ ?_
  · intro before rest heq hlt
    have htext : line = c :: before ++ rest := hline.trans (congrArg (c :: ·) heq.symm)
    refine Option.map_eq_none_iff.mpr
      (first?_line_eq_none h htext (List.cons_ne_nil c before) ?_)
    rw [hfile]
    exact Nat.succ_lt_succ hlt
  · have hgroups : partGroups parts = (.file, c :: name) :: (placeGroups parts.line parts.column ++
        (.severity, severityWord parts.category) ::
          (.message, (cutCode after).1) :: codeGroups (cutCode after).2) := by
      rw [partGroups, hfile, hending]
      rfl
    rw [hgroups]
    exact congrArg (Option.map _) hfound

theorem of_mem_file {t : Text} {m : Match Slot} (h : m ∈ filePattern.candidates t) :
    ∃ file, file ≠ [] ∧ t = file ++ m.rest ∧ '\n' ∉ file := by
  obtain ⟨_, hfile, rfl⟩ := of_mem_group h
  obtain ⟨_, hone, _, hfew, rfl⟩ := of_mem_seq hfile
  obtain ⟨c, rest, rfl, hc, rfl⟩ := of_mem_one hone
  obtain ⟨before, rest', heq, hbefore, rfl⟩ := of_mem_few hfew
  obtain rfl : rest = before ++ rest' := heq
  refine ⟨c :: before, by simp, rfl, fun hmem => ?_⟩
  rcases List.mem_cons.mp hmem with rfl | hmem
  · exact absurd hc (by decide)
  · exact absurd (hbefore _ hmem) (by decide)

theorem of_first?_pattern {line : Text} {m : Match Slot} (h : pattern.first? line = some m)
    (hend : ¬ ['\n'] <:+ line) : '\n' ∉ line ∧ ∃ i category, MarkedAt line i category := by
  obtain ⟨a, hfile, _, hrest, -⟩ := of_first?_seq h
  obtain ⟨file, hne, hline, hfeed⟩ := of_mem_file hfile
  have hend' : ¬ ['\n'] <:+ a.rest :=
    fun hsuffix => hend (hline ▸ hsuffix.trans (List.suffix_append _ _))
  obtain ⟨place, number, column, category, after, hreads, heq, hafter⟩ := of_first?_line hrest hend'
  have hpos := List.length_pos_iff.mpr hne
  refine ⟨?_, file.length + place.length, category, by omega, after, ?_⟩
  · rw [hline, heq]
    simp only [List.mem_append, not_or]
    exact ⟨hfeed, feed_notMem_place hreads, by cases category <;> decide, hafter⟩
  · rw [hline, heq, ← List.append_assoc file, ← List.length_append, List.drop_left]

/-- The parts of a line that no line feed ends are those of the first match of the pattern. -/
theorem parse?_eq_first {line : Text} (hend : ¬ ['\n'] <:+ line) :
    parse? line = (pattern.first? line).bind ofMatch? := by
  cases hparse : parse? line with
  | some parts =>
      obtain ⟨i, hcut⟩ := cutAt_of_parse? hparse
      rw [first?_pattern hcut]
      exact (ofMatch?_partGroups parts line []).symm
  | none =>
      cases hfirst : pattern.first? line with
      | none => rfl
      | some m =>
          obtain ⟨hline, i, category, hmarked⟩ := of_first?_pattern hfirst hend
          rcases parse?_eq_none_iff.mp hparse with hmem | hnone
          · exact absurd hmem hline
          · exact absurd hmarked (hnone i category)

theorem parse?_unended (raw : Text) :
    parse? (unended raw) = (pattern.first? (unended raw)).bind ofMatch? := by
  refine parse?_eq_first ?_
  rintro ⟨before, hbefore⟩
  have hlast : (unended raw).getLast? = some '\n' := by simp [← hbefore]
  exact absurd (getLast?_dropTrailing _ hlast) (by decide)

end Recheck.Proofs.MessagePatterns
