import Recheck.Text

/-!
# Patterns

A pattern is matched at the start of a text and remembers what its named groups took. Its matches
stand in the order in which they are tried; the first one counts.
-/

namespace Recheck.Text

inductive Pattern (γ : Type)
  | word (t : Text)
  | one (accepts : Char → Bool)
  /-- Characters of a kind, no more of them than needed. -/
  | few (accepts : Char → Bool)
  /-- Characters of a kind, as many of them as possible. -/
  | many (accepts : Char → Bool)
  | seq (p q : Pattern γ)
  | or (p q : Pattern γ)
  /-- The pattern, or nothing if it does not match. -/
  | maybe (p : Pattern γ)
  | group (name : γ) (p : Pattern γ)
  /-- The end of the text, also before a line feed that ends it. -/
  | ending

structure Match (γ : Type) where
  taken : Text
  groups : List (γ × Text)
  rest : Text

/-- The ways to cut a text behind characters of a kind, with the fewest of them first. -/
def cuts (accepts : Char → Bool) : Text → List (Text × Text)
  | [] => [([], [])]
  | c :: t =>
    ([], c :: t) ::
      if accepts c then (cuts accepts t).map fun (before, rest) => (c :: before, rest) else []

namespace Match

variable {γ : Type}

def nothing (t : Text) : Match γ := ⟨[], [], t⟩

/-- A match, and one behind it. -/
def append (m n : Match γ) : Match γ := ⟨m.taken ++ n.taken, m.groups ++ n.groups, n.rest⟩

def named (name : γ) (m : Match γ) : Match γ := { m with groups := (name, m.taken) :: m.groups }

/-- What a group took, unless it is no part of the match. -/
def group? [BEq γ] (m : Match γ) (name : γ) : Option Text := m.groups.lookup name

end Match

namespace Pattern

variable {γ : Type}

def oneOrMore (accepts : Char → Bool) : Pattern γ := .seq (.one accepts) (.many accepts)

/-- The matches at the start of a text, in the order of preference. -/
def candidates : Pattern γ → Text → List (Match γ)
  | word w, t => ((dropHead? w t).map fun rest => ⟨w, [], rest⟩).toList
  | one _, [] => []
  | one accepts, c :: t => if accepts c then [⟨[c], [], t⟩] else []
  | few accepts, t => (cuts accepts t).map fun (before, rest) => ⟨before, [], rest⟩
  | many accepts, t => (cuts accepts t).reverse.map fun (before, rest) => ⟨before, [], rest⟩
  | seq p q, t => (p.candidates t).flatMap fun m => (q.candidates m.rest).map m.append
  | or p q, t => p.candidates t ++ q.candidates t
  | maybe p, t => p.candidates t ++ [.nothing t]
  | group name p, t => (p.candidates t).map (.named name)
  | ending, t => if t = [] ∨ t = ['\n'] then [.nothing t] else []

def first? (p : Pattern γ) (t : Text) : Option (Match γ) := (p.candidates t).head?

end Pattern

end Recheck.Text
