import Mathlib.Data.List.Infix
import Mathlib.Data.List.TakeWhile
import Recheck.Glob

/-!
What patterns of names stand for. The tokens of a pattern cover a text part by part. A star with a
text behind it stands for the names that end in the text exactly if the pattern takes each of its
characters for itself: it has no star, no question mark and no bracket that is closed.
-/

namespace Recheck.Proofs.NamePatterns

open Recheck.Glob

/-- The parts of texts that a token stands for. -/
def Covers : Token → Text → Prop
  | .star, _ => True
  | .any, part => ∃ c, part = [c]
  | .one a, part => part = [a]
  | .set s, part => ∃ c, part = [c] ∧ s.has c = true
  | .never, _ => False

/-- The texts that tokens stand for: one part for each token, in their order. -/
def Stands : List Token → Text → Prop
  | [], t => t = []
  | token :: tokens, t => ∃ part rest, t = part ++ rest ∧ Covers token part ∧ Stands tokens rest

theorem mem_tails_iff {t rest : Text} : rest ∈ tails t ↔ rest <:+ t := by
  induction t with
  | nil => simp [tails]
  | cons c t ih => rw [tails, List.mem_cons, ih, List.suffix_cons_iff]

theorem mem_rests_iff {token : Token} {t rest : Text} :
    rest ∈ token.rests t ↔ ∃ part, t = part ++ rest ∧ Covers token part := by
  cases token with
  | star =>
      rw [Token.rests, mem_tails_iff]
      exact ⟨fun ⟨part, h⟩ => ⟨part, h.symm, trivial⟩, fun ⟨part, h, _⟩ => ⟨part, h.symm⟩⟩
  | any => cases t <;> simp [Token.rests, Covers, eq_comm]
  | one a =>
      cases t with
      | nil => simp [Token.rests, Covers]
      | cons c t => by_cases h : a = c <;> simp [Token.rests, Covers, h, eq_comm]
  | set s =>
      cases t with
      | nil => simp [Token.rests, Covers]
      | cons c t =>
          simp only [Token.rests, Covers]
          constructor
          · split
            · next h =>
                rw [List.mem_singleton]
                rintro rfl
                exact ⟨[c], rfl, c, rfl, h⟩
            · simp
          · rintro ⟨_, hpart, c', rfl, h⟩
            obtain ⟨rfl, rfl⟩ := List.cons.inj hpart
            rw [if_pos h]
            exact List.mem_singleton_self _
  | never => cases t <;> simp [Token.rests, Covers]

/-- Each of the texts is an end of those before it. -/
def Nested (texts : List Text) : Prop := texts.Pairwise fun earlier later => later <:+ earlier

theorem nested_tails (t : Text) : Nested (tails t) := by
  induction t with
  | nil => simp [tails, Nested]
  | cons c t ih =>
      refine List.pairwise_cons.mpr ⟨fun rest hrest => ?_, ih⟩
      exact (mem_tails_iff.mp hrest).trans (List.suffix_cons c t)

theorem suffix_tail_of_suffix {c c' : Char} {t t' : Text} (h : c' :: t' <:+ c :: t) : t' <:+ t := by
  rcases List.suffix_cons_iff.mp h with heq | hsuffix
  · obtain ⟨-, rfl⟩ := List.cons.inj heq
    exact List.suffix_rfl
  · exact (List.suffix_cons c' t').trans hsuffix

theorem exists_cons_of_mem_rests {token : Token} (h : token ≠ .star) {t rest : Text}
    (hrest : rest ∈ token.rests t) : ∃ c, t = c :: rest := by
  obtain ⟨part, rfl, hpart⟩ := mem_rests_iff.mp hrest
  cases token with
  | star => exact absurd rfl h
  | any =>
      obtain ⟨c, rfl⟩ := hpart
      exact ⟨c, rfl⟩
  | one a =>
      obtain rfl : part = [a] := hpart
      exact ⟨a, rfl⟩
  | set s =>
      obtain ⟨c, rfl, -⟩ := hpart
      exact ⟨c, rfl⟩
  | never => exact absurd hpart id

theorem pairwise_rests {token : Token} (h : token ≠ .star) (t : Text) :
    (token.rests t).Pairwise fun earlier later => later <:+ earlier := by
  cases token with
  | star => exact absurd rfl h
  | any | one a | set s | never => cases t <;> simp [Token.rests, apply_ite]

theorem restsOfAll_eq {token : Token} (h : token ≠ .star) (texts : List Text) :
    token.restsOfAll texts = texts.flatMap token.rests := by
  cases token with
  | star => exact absurd rfl h
  | any | one a | set s | never => rfl

theorem nested_restsOfAll {texts : List Text} (h : Nested texts) (token : Token) :
    Nested (token.restsOfAll texts) := by
  by_cases hstar : token = .star
  · subst hstar
    cases texts with
    | nil => exact List.Pairwise.nil
    | cons t texts => exact nested_tails t
  · rw [restsOfAll_eq hstar, Nested, List.pairwise_flatMap]
    refine ⟨fun t _ => pairwise_rests hstar t, h.imp
      fun {t t'} hsuffix rest hrest rest' hrest' => ?_⟩
    obtain ⟨c, rfl⟩ := exists_cons_of_mem_rests hstar hrest
    obtain ⟨c', rfl⟩ := exists_cons_of_mem_rests hstar hrest'
    exact suffix_tail_of_suffix hsuffix

theorem mem_restsOfAll_iff {texts : List Text} (h : Nested texts) {token : Token} {rest : Text} :
    rest ∈ token.restsOfAll texts ↔ ∃ t ∈ texts, rest ∈ token.rests t := by
  by_cases hstar : token = .star
  · subst hstar
    cases texts with
    | nil => simp [Token.restsOfAll]
    | cons t texts =>
        -- What a star leaves of the first text holds what it leaves of its ends.
        refine ⟨fun hrest => ⟨t, List.mem_cons_self, hrest⟩, ?_⟩
        rintro ⟨t', ht', hrest⟩
        rw [Token.rests, mem_tails_iff] at hrest
        rw [Token.restsOfAll, mem_tails_iff]
        rcases List.mem_cons.mp ht' with rfl | hlater
        · exact hrest
        · exact hrest.trans ((List.pairwise_cons.mp h).1 t' hlater)
  · rw [restsOfAll_eq hstar, List.mem_flatMap]

theorem nil_mem_foldl_iff {tokens : List Token} {texts : List Text} (h : Nested texts) :
    [] ∈ tokens.foldl (fun texts token => token.restsOfAll texts) texts ↔
      ∃ t ∈ texts, Stands tokens t := by
  induction tokens generalizing texts with
  | nil => simp [Stands]
  | cons token tokens ih =>
      rw [List.foldl_cons, ih (nested_restsOfAll h token)]
      constructor
      · rintro ⟨rest, hrest, hstands⟩
        obtain ⟨t, ht, hmem⟩ := (mem_restsOfAll_iff h).mp hrest
        obtain ⟨part, heq, hpart⟩ := mem_rests_iff.mp hmem
        exact ⟨t, ht, part, rest, heq, hpart, hstands⟩
      · rintro ⟨t, ht, part, rest, heq, hpart, hstands⟩
        exact ⟨rest, (mem_restsOfAll_iff h).mpr ⟨t, ht, mem_rests_iff.mpr ⟨part, heq, hpart⟩⟩,
          hstands⟩

theorem accepts_iff {tokens : List Token} {t : Text} :
    accepts tokens t = true ↔ Stands tokens t := by
  have hstands : [] ∈ tokens.foldl (fun texts token => token.restsOfAll texts) [t] ↔
      Stands tokens t := by
    rw [nil_mem_foldl_iff (List.pairwise_singleton _ t)]
    simp
  rw [accepts, List.any_eq_true, ← hstands]
  simp

/-- The texts that an extension stands for when it is taken for a pattern. -/
def StandsFor (extension t : Text) : Prop := Stands (tokens extension) t

theorem matchesName_star_iff {extension name : Text} :
    matchesName (['*'] ++ extension) name = true ↔
      ∃ back, back <:+ name ∧ StandsFor extension back := by
  have htokens : tokens (['*'] ++ extension) = .star :: tokens extension := rfl
  rw [matchesName, accepts_iff, htokens]
  constructor
  · rintro ⟨front, back, rfl, -, hback⟩
    exact ⟨back, List.suffix_append front back, hback⟩
  · rintro ⟨back, ⟨front, rfl⟩, hback⟩
    exact ⟨front, back, rfl, trivial, hback⟩

/-- What stands between the brackets of a set and behind them, without the sign of a set of
others. -/
def afterSign : Text → Text
  | '!' :: t => t
  | t => t

/-- Whether a bracket in front of the text is closed. The bracket that closes it is not the first
character of the set. -/
def Closes (t : Text) : Prop := ']' ∈ (afterSign t).drop 1

/-- A pattern reads some character of the text for something else than itself. -/
inductive Special : Text → Prop
  | star (t : Text) : Special ('*' :: t)
  | any (t : Text) : Special ('?' :: t)
  | set {t : Text} (h : Closes t) : Special ('[' :: t)
  | later (c : Char) {t : Text} (h : Special t) : Special (c :: t)

theorem mem_drop_one_iff {t : Text} (h : t.head? ≠ some ']') : ']' ∈ t.drop 1 ↔ ']' ∈ t := by
  cases t with
  | nil => simp
  | cons c t =>
      have hc : ¬ ']' = c := by simpa [eq_comm] using h
      simp [hc]

theorem exists_bracketBody?_eq (t : Text) : ∃ front rest, t = front ++ rest ∧
    (']' ∈ rest ↔ Closes t) ∧
    bracketBody? t = match rest.span (· ≠ ']') with
      | (_, []) => none
      | (inner, _ :: behind) => some (front ++ inner, behind) := by
  unfold bracketBody? Closes
  split
  next front rest heq =>
  refine ⟨front, rest, ?_⟩
  split at heq <;> obtain ⟨rfl, rfl⟩ := Prod.mk.inj heq
  · exact ⟨rfl, by simp [afterSign], rfl⟩
  · next hfirst =>
      refine ⟨rfl, (mem_drop_one_iff fun hhead => ?_).symm, rfl⟩
      obtain ⟨rest, rfl⟩ := List.head?_eq_some_iff.mp hhead
      exact hfirst rest rfl
  · exact ⟨rfl, by simp [afterSign], rfl⟩
  · next hsign hplain hfirst =>
      have hsame : afterSign t = t := by
        unfold afterSign
        split
        · next rest => exact absurd rfl (hplain rest)
        · rfl
      rw [hsame]
      refine ⟨rfl, (mem_drop_one_iff fun hhead => ?_).symm, rfl⟩
      obtain ⟨rest, rfl⟩ := List.head?_eq_some_iff.mp hhead
      exact hfirst rest rfl

theorem dropWhile_eq_nil_iff_not_mem {t : Text} : t.dropWhile (· ≠ ']') = [] ↔ ']' ∉ t := by
  rw [List.dropWhile_eq_nil_iff]
  constructor
  · intro h hmem
    simpa using h ']' hmem
  · intro h c hc
    have hne : c ≠ ']' := fun hclosing => h (hclosing ▸ hc)
    simpa using hne

theorem bracketBody?_eq_none_iff {t : Text} : bracketBody? t = none ↔ ¬ Closes t := by
  obtain ⟨front, rest, -, hcloses, hbody⟩ := exists_bracketBody?_eq t
  rw [hbody, ← hcloses, ← dropWhile_eq_nil_iff_not_mem, List.span_eq_takeWhile_dropWhile]
  cases rest.dropWhile (· ≠ ']') <;> simp

theorem length_lt_of_bracketBody? {t body behind : Text}
    (h : bracketBody? t = some (body, behind)) : behind.length < t.length := by
  obtain ⟨front, rest, rfl, -, hbody⟩ := exists_bracketBody?_eq t
  rw [hbody, List.span_eq_takeWhile_dropWhile] at h
  have hlength := List.length_dropWhile_le (· ≠ ']') rest
  cases hdrop : rest.dropWhile (· ≠ ']') with
  | nil =>
      rw [hdrop] at h
      cases h
  | cons c others =>
      rw [hdrop] at h hlength
      obtain ⟨-, rfl⟩ := Prod.mk.inj (Option.some.inj h)
      simp only [List.length_cons, List.length_append] at hlength ⊢
      omega

theorem special_cons_iff {c : Char} {t : Text} :
    Special (c :: t) ↔ c = '*' ∨ c = '?' ∨ (c = '[' ∧ Closes t) ∨ Special t := by
  constructor
  · rintro (_ | _ | h | ⟨_, h⟩)
    · exact .inl rfl
    · exact .inr (.inl rfl)
    · exact .inr (.inr (.inl ⟨rfl, h⟩))
    · exact .inr (.inr (.inr h))
  · rintro (rfl | rfl | ⟨rfl, h⟩ | h)
    · exact .star t
    · exact .any t
    · exact .set h
    · exact .later c h

theorem tokensWith_of_not_special {fuel : Nat} {t : Text} (hfuel : t.length ≤ fuel)
    (h : ¬ Special t) : tokensWith fuel t = t.map .one := by
  fun_induction tokensWith fuel t with
  | case1 t =>
      obtain rfl : t = [] := List.length_eq_zero_iff.mp (Nat.le_zero.mp hfuel)
      rfl
  | case2 => rfl
  | case3 fuel t ih => exact absurd (.star t) h
  | case4 fuel t ih => exact absurd (.any t) h
  | case5 fuel t hbody ih =>
      rw [List.map_cons, ih (Nat.le_of_succ_le_succ hfuel) fun ht => h (.later _ ht)]
  | case6 fuel t body rest hbody ih =>
      refine absurd (.set (not_not.mp fun hopen => ?_)) h
      rw [bracketBody?_eq_none_iff.mpr hopen] at hbody
      cases hbody
  | case7 fuel c t hstar hany hset ih =>
      rw [List.map_cons, ih (Nat.le_of_succ_le_succ hfuel) fun ht => h (.later _ ht)]

theorem stands_map_one_iff {t t' : Text} : Stands (t.map .one) t' ↔ t' = t := by
  induction t generalizing t' with
  | nil => rfl
  | cons c t ih =>
      simp only [List.map_cons, Stands, Covers, ih]
      exact ⟨fun ⟨part, rest, heq, hpart, hrest⟩ => by rw [heq, hpart, hrest]; rfl,
        fun heq => ⟨[c], t, heq, rfl, rfl⟩⟩

theorem standsFor_iff_of_not_special {extension t : Text} (h : ¬ Special extension) :
    StandsFor extension t ↔ t = extension := by
  rw [StandsFor, tokens, tokensWith_of_not_special (Nat.le_refl _) h, stands_map_one_iff]

/-- Tokens that are read from a text stand for nothing at all, or for a text that is no longer and,
if some character of the text is special, another one. -/
def Strays (tokens : List Token) (t : Text) : Prop :=
  (∀ t', ¬ Stands tokens t') ∨
    ∃ t', Stands tokens t' ∧ t'.length ≤ t.length ∧ (Special t → t' ≠ t)

theorem strays_nil (t : Text) (h : ¬ Special t) : Strays [] t :=
  .inr ⟨[], rfl, Nat.zero_le _, fun hspecial => absurd hspecial h⟩

theorem Strays.cons {token : Token} {tokens : List Token} {rest t part : Text}
    (h : Strays tokens rest) (hpart : Covers token part)
    (hnext : ∀ t', t'.length ≤ rest.length → (Special rest → t' ≠ rest) →
      (part ++ t').length ≤ t.length ∧ (Special t → part ++ t' ≠ t)) :
    Strays (token :: tokens) t := by
  rcases h with hnone | ⟨t', hstands, hlength, hother⟩
  · left
    rintro _ ⟨_, rest', -, -, hrest'⟩
    exact hnone rest' hrest'
  · exact .inr ⟨part ++ t', ⟨part, t', rfl, hpart, hstands⟩, hnext t' hlength hother⟩

theorem strays_one {c : Char} {tokens : List Token} {t : Text} (h : Strays tokens t)
    (hc : Special (c :: t) → Special t) : Strays (.one c :: tokens) (c :: t) := by
  refine h.cons rfl fun t' hlength hother => ⟨by simpa using hlength, fun hspecial => ?_⟩
  simpa using hother (hc hspecial)

theorem strays_of_shorter {token : Token} {tokens : List Token} {rest t : Text}
    (h : Strays tokens rest) (hshort : rest.length + 1 < t.length) :
    Strays (token :: tokens) t := by
  by_cases hpart : ∃ part, Covers token part ∧ part.length ≤ 1
  · obtain ⟨part, hcovers, hone⟩ := hpart
    refine h.cons hcovers fun t' hlength _ => ?_
    have hlt : (part ++ t').length < t.length := by
      rw [List.length_append]
      omega
    exact ⟨hlt.le, fun _ heq => absurd (congrArg List.length heq) hlt.ne⟩
  · left
    rintro _ ⟨part, rest', -, hcovers, -⟩
    refine hpart ?_
    cases token with
    | star => exact ⟨[], trivial, Nat.zero_le 1⟩
    | any => exact ⟨['a'], ⟨'a', rfl⟩, Nat.le_refl 1⟩
    | one a => exact ⟨[a], rfl, Nat.le_refl 1⟩
    | set s =>
        obtain ⟨c, -, hc⟩ := hcovers
        exact ⟨[c], ⟨c, rfl, hc⟩, Nat.le_refl 1⟩
    | never => exact absurd hcovers id

theorem strays_tokensWith {fuel : Nat} {t : Text} (hfuel : t.length ≤ fuel) :
    Strays (tokensWith fuel t) t := by
  fun_induction tokensWith fuel t with
  | case1 t =>
      obtain rfl : t = [] := List.length_eq_zero_iff.mp (Nat.le_zero.mp hfuel)
      exact strays_nil [] nofun
  | case2 => exact strays_nil [] nofun
  | case3 fuel t ih =>
      have hnothing : Covers .star [] := trivial
      refine (ih (Nat.le_of_succ_le_succ hfuel)).cons hnothing fun t' hlength _ => ?_
      refine ⟨Nat.le_succ_of_le hlength, fun _ heq => ?_⟩
      rw [List.nil_append] at heq
      rw [heq, List.length_cons] at hlength
      omega
  | case4 fuel t ih =>
      have hone : Covers .any ['a'] := ⟨'a', rfl⟩
      refine (ih (Nat.le_of_succ_le_succ hfuel)).cons hone fun t' hlength _ => ?_
      exact ⟨by simpa using hlength, by simp⟩
  | case5 fuel t hbody ih =>
      refine strays_one (ih (Nat.le_of_succ_le_succ hfuel)) fun hspecial => ?_
      simpa [special_cons_iff, bracketBody?_eq_none_iff.mp hbody] using hspecial
  | case6 fuel t body rest hbody ih =>
      have hrest := length_lt_of_bracketBody? hbody
      rw [List.length_cons] at hfuel
      refine strays_of_shorter (ih (by omega)) ?_
      rw [List.length_cons]
      omega
  | case7 fuel c t hstar hany hset ih =>
      refine strays_one (ih (Nat.le_of_succ_le_succ hfuel)) fun hspecial => ?_
      rcases special_cons_iff.mp hspecial with rfl | rfl | ⟨rfl, -⟩ | hlater
      · exact absurd rfl hstar
      · exact absurd rfl hany
      · exact absurd rfl hset
      · exact hlater

theorem exists_differs_of_special {extension : Text} (h : Special extension) :
    ∃ name, ¬ (matchesName (['*'] ++ extension) name = true ↔ extension <:+ name) := by
  rcases strays_tokensWith (Nat.le_refl extension.length) with hnone | ⟨t, hstands, hlength, hother⟩
  · refine ⟨extension, fun hiff => ?_⟩
    obtain ⟨back, -, hback⟩ := matchesName_star_iff.mp (hiff.mpr List.suffix_rfl)
    exact hnone back hback
  · refine ⟨t, fun hiff => ?_⟩
    have hmatches := matchesName_star_iff.mpr ⟨t, List.suffix_rfl, hstands⟩
    exact hother h ((hiff.mp hmatches).eq_of_length_le hlength).symm

end Recheck.Proofs.NamePatterns
