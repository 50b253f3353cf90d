import Registrar.Text.Search

/-!
Patterns of `LIKE` with a backslash as escape character: `%` stands for any run of characters, `_`
for one character, and an escaped character for itself.
-/

namespace Registrar.Sql.Like

def isSpecial (c : Char) : Bool :=
  c == '%' || c == '_' || c == '\\'

def escape (chars : List Char) : List Char :=
  chars.flatMap fun c => if isSpecial c then ['\\', c] else [c]

def containing (chars : List Char) : List Char :=
  '%' :: escape chars ++ ['%']

inductive Token where
  | run
  | one
  | char (c : Char)
deriving DecidableEq, Repr

/-- The parts of a pattern; none if it ends in an escape character. -/
def tokens? : List Char → Option (List Token)
  | [] => some []
  | '\\' :: c :: rest => (tokens? rest).map (.char c :: ·)
  | '\\' :: [] => none
  | c :: rest =>
    (tokens? rest).map ((if c = '%' then .run else if c = '_' then .one else .char c) :: ·)

def tails : List Char → List (List Char)
  | [] => [[]]
  | c :: rest => (c :: rest) :: tails rest

/-- Whether the parts stand for the text, characters being compared by `same`. -/
def matchTokens (same : Char → Char → Bool) : List Token → List Char → Bool
  | [], text => text.isEmpty
  | .run :: rest, text => (tails text).any (matchTokens same rest)
  | .one :: rest, _ :: text => matchTokens same rest text
  | .char c :: rest, d :: text => same c d && matchTokens same rest text
  | _, [] => false

def «matches» (same : Char → Char → Bool) (pattern text : List Char) : Bool :=
  match tokens? pattern with
  | some parts => matchTokens same parts text
  | none => false

end Registrar.Sql.Like
