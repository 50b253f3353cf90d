import Registrar.Json.Writer
import Registrar.Yaml.Reader

/-!
YAML texts of values: mappings and sequences as blocks, scalars within a line.
-/

namespace Registrar.Yaml

open Text

/-- Whether a text can be written without quotes and be read as the same text. -/
def isPlain (content : String) : Bool :=
  let chars := content.toList
  startsPlain chars && chars.getLast? != some ' ' && (plainName chars).isNone &&
    !contains content " #" && !chars.any (fun c => c.toNat < 32) &&
    match plain content with
    | .str _ => true
    | _ => false

/-- A text as a scalar: plain if it can be, in apostrophes if it is one line, else with escapes. -/
def scalar (content : String) : String :=
  if isPlain content then content
  else if content.toList.any fun c => c.toNat < 32 then Json.quoted content
  else
    let doubled := content.toList.flatMap fun c => if c = apostrophe then [c, c] else [c]
    String.ofList (apostrophe :: doubled ++ [apostrophe])

def indented (lines : List String) : List String :=
  lines.map ("  " ++ ·)

def hanging (lead : String) : List String → List String
  | [] => [lead]
  | line :: lines => (lead ++ line) :: lines.map ("".pushn ' ' lead.length ++ ·)

mutual

def lines : Json → List String
  | .str content => [scalar content]
  | .arr (item :: items) => itemLines (item :: items)
  | .obj (member :: members) => memberLines (member :: members)
  | other => [other.text]

def itemLines : List Json → List String
  | [] => []
  | item :: items => hanging "- " (lines item) ++ itemLines items

def memberLines : List (String × Json) → List String
  | [] => []
  | (name, value) :: members =>
    let head := scalar name ++ ":"
    let own :=
      match value with
      | .arr (item :: items) => head :: itemLines (item :: items)
      | .obj (member :: inner) => head :: indented (memberLines (member :: inner))
      | other => hanging (head ++ " ") (lines other)
    own ++ memberLines members

end

def text (value : Json) : String :=
  String.join ((lines value).map (· ++ "\n"))

end Registrar.Yaml
