import Recheck.Text

/-!
# File name patterns

In a pattern `*` stands for any characters, `?` for one, and `[…]` for one of a set, or with `!`
in front for one outside it. A set lists characters and ranges of them; a bracket that is not
closed stands for itself. Case matters.
-/

namespace Recheck.Glob

/-- A set of characters: single ones and ranges. -/
structure CharSet where
  negated : Bool
  singles : List Char
  ranges : List (Char × Char)
  deriving DecidableEq, Repr

def CharSet.has (set : CharSet) (c : Char) : Bool :=
  (set.singles.contains c || set.ranges.any fun r => r.1 ≤ c && c ≤ r.2) != set.negated

inductive Token
  | star
  | any
  | one (c : Char)
  | set (s : CharSet)
  /-- A set of no characters, which matches nothing. -/
  | never
  deriving DecidableEq, Repr

/-- The text of a set cut at the hyphens that make ranges. A hyphen makes a range when it has
a character on each side that no other range uses; `kept` counts the characters before the next
hyphen that may. -/
def cutRanges (kept : Nat) (chunk : Text) : Text → List Text
  | [] => [chunk.reverse]
  | c :: rest =>
    match kept with
    | kept + 1 => cutRanges kept (c :: chunk) rest
    | 0 => if c = '-' then chunk.reverse :: cutRanges 2 [] rest else cutRanges 0 (c :: chunk) rest

/-- The chunks between the hyphens of ranges; a hyphen at the end is a character. -/
def chunks (body : Text) : List Text :=
  let all := cutRanges (if body.head? = some '!' then 2 else 1) [] body
  match all.reverse with
  | [] :: last :: earlier => ((last ++ ['-']) :: earlier).reverse
  | _ => all

/-- The chunks without the ranges whose ends are in descending order, from the last one on. -/
def mergeEmpty : List Text → List Text
  | [] => []
  | chunk :: rest =>
    match mergeEmpty rest with
    | [] => [chunk]
    | next :: others =>
      match chunk.getLast?, next.head? with
      | some low, some high =>
        if high < low then (chunk.dropLast ++ next.drop 1) :: others else chunk :: next :: others
      | _, _ => chunk :: next :: others

/-- The ranges between chunks, and a hyphen where no character stands before it. -/
def rangesOf : List Text → List (Char × Char) × List Char
  | chunk :: next :: others =>
    let (ranges, singles) := rangesOf (next :: others)
    match chunk.getLast?, next.head? with
    | some low, some high => ((low, high) :: ranges, singles)
    | _, _ => (ranges, '-' :: singles)
  | _ => ([], [])

/-- The token that the text between brackets stands for. -/
def setToken (body : Text) : Token :=
  match mergeEmpty (chunks body) with
  | [] | [[]] => .never
  | [['!']] => .any
  | ('!' :: first) :: others =>
    let (ranges, hyphens) := rangesOf (first :: others)
    .set ⟨true, (first :: others).flatten ++ hyphens, ranges⟩
  | all =>
    let (ranges, hyphens) := rangesOf all
    .set ⟨false, all.flatten ++ hyphens, ranges⟩

/-- The text between an opening bracket and the bracket that closes it, and the rest. A closing
bracket that comes first, or right after `!`, belongs to the set. -/
def bracketBody? (t : Text) : Option (Text × Text) :=
  let (front, t) := match t with
    | '!' :: ']' :: t => ((['!', ']'] : Text), t)
    | '!' :: t => (['!'], t)
    | ']' :: t => ([']'], t)
    | t => ([], t)
  match t.span (· ≠ ']') with
  | (_, []) => none
  | (inner, _ :: rest) => some (front ++ inner, rest)

/-- The tokens of a pattern; `fuel` is at least its length. -/
def tokensWith : Nat → Text → List Token
  | 0, _ => []
  | _, [] => []
  | fuel + 1, '*' :: t => .star :: tokensWith fuel t
  | fuel + 1, '?' :: t => .any :: tokensWith fuel t
  | fuel + 1, '[' :: t =>
    match bracketBody? t with
    | none => .one '[' :: tokensWith fuel t
    | some (body, rest) => setToken body :: tokensWith fuel rest
  | fuel + 1, c :: t => .one c :: tokensWith fuel t

def tokens (pattern : Text) : List Token := tokensWith pattern.length pattern

/-- The ends of a text, the whole text first. -/
def tails : Text → List Text
  | [] => [[]]
  | c :: t => (c :: t) :: tails t

/-- What a text leaves behind the part that a token stands for, the longest first. -/
def Token.rests : Token → Text → List Text
  | .star, t => tails t
  | .any, _ :: t => [t]
  | .one a, c :: t => if a = c then [t] else []
  | .set s, c :: t => if s.has c then [t] else []
  | _, _ => []

/-- What texts leave behind the part that a token stands for. Each of the texts is an end of the
one before it, so what a star leaves of the first holds what it leaves of the others. -/
def Token.restsOfAll : Token → List Text → List Text
  | .star, [] => []
  | .star, t :: _ => tails t
  | token, texts => texts.flatMap token.rests

/-- Whether a whole text is what the tokens stand for. The ends that the tokens so far leave are
kept together, so no end is looked at twice for one token. -/
def accepts (tokens : List Token) (t : Text) : Bool :=
  (tokens.foldl (fun texts token => token.restsOfAll texts) [t]).any List.isEmpty

def matchesName (pattern name : Text) : Bool := accepts (tokens pattern) name

end Recheck.Glob
