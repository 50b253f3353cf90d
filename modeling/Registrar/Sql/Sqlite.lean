import Registrar.Sql.Meaning

/-!
What SQLite makes of statements. Instants are kept as texts, texts compare by their octets, and
only ASCII letters have two cases.
-/

namespace Registrar.Sql.Sqlite

/-- The text that an instant is kept as: universal time, with the fewest fraction digits in groups of three. -/
def instantText (moment : Time.Instant) : String :=
  moment.render "+00:00"

def stored : Value → Value
  | .instant moment => .text (instantText moment)
  | other => other

def untilZero (text : String) : List Char :=
  text.toList.takeWhile fun c => c.toNat != 0

/-- Whether a text is like a pattern; the case of ASCII letters does not matter, and nothing after a zero character does. -/
def isLike (pattern text : String) : Bool :=
  Like.matches (fun a b => Text.asciiLower a == Text.asciiLower b) (untilZero pattern)
    (untilZero text)

def semantics : Semantics where
  lower text := String.ofList (text.toList.map Text.asciiLower)
  like := isLike
  bound
    | .text content => .text content
    | .instant moment => .text (instantText moment)
    | .count number => .text (toString number)
  nullsLow := true

end Registrar.Sql.Sqlite
