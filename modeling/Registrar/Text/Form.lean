import Registrar.Text.Search
import Registrar.Text.Utf8

/-!
Percent escapes, and queries as pairs of names and values.
-/

namespace Registrar.Text

/-- The octets that a text with percent escapes stands for. A percent sign without two hexadecimal digits stands for itself. -/
def unescape : List Char → List UInt8
  | [] => []
  | '%' :: a :: b :: rest =>
    match hexDigit? a, hexDigit? b with
    | some high, some low => UInt8.ofNat (high * 16 + low) :: unescape rest
    | _, _ => 0x25 :: unescape (a :: b :: rest)
  | c :: rest => String.utf8EncodeChar c ++ unescape rest

def unescaped? (text : String) : Option String :=
  Utf8.decode? (unescape text.toList)

def formText (part : String) : String :=
  Utf8.lossy (unescape (part.toList.map fun c => if c = '+' then ' ' else c))

/-- The names and values of a query; empty parts are skipped, and a name alone has an empty value. -/
def formPairs (query : String) : List (String × String) :=
  ((split '&' query).filter fun part => !part.isEmpty).map fun part =>
    match cut? "=" part with
    | some (name, value) => (formText name, formText value)
    | none => (formText part, "")

end Registrar.Text
