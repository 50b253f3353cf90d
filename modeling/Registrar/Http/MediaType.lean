import Registrar.Text.Search

/-!
Media types of message bodies, as `content-type` headers write them.
-/

namespace Registrar.Http

open Text

/-- A media type in lower case; the suffix is what follows the last plus sign of the subtype. -/
structure MediaType where
  type : String
  subtype : String
  suffix : Option String
deriving DecidableEq, Repr

namespace MediaType

def isNameChar (c : Char) : Bool :=
  isDigit c || ('a' ≤ c && c ≤ 'z') || ('A' ≤ c && c ≤ 'Z') ||
    c.toNat == 0x60 || "!#$%&'+-.^_|~".contains c

def splitSuffix (subtype : List Char) : List Char × Option (List Char) :=
  let after := subtype.reverse.takeWhile (· ≠ '+')
  match subtype.reverse.dropWhile (· ≠ '+') with
  | '+' :: c :: before => ((c :: before).reverse, some after.reverse)
  | _ => (subtype, none)

def afterValue (chars : List Char) : Option (List Char) :=
  match chars with
  | [] => some []
  | ';' :: rest => some rest
  | _ => none

def dropValue? (chars : List Char) : Option (List Char) :=
  match chars with
  | '"' :: rest =>
    match rest.dropWhile fun c => c ≠ '"' && 0x20 ≤ c.toNat && c.toNat ≠ 0x7F with
    | '"' :: rest => afterValue (rest.dropWhile (· = ' '))
    | _ => none
  | _ => afterValue (chars.dropWhile isNameChar)

/-- Whether the list is a series of parameters; each takes at least one character, which bounds the steps. -/
def areParameters : Nat → List Char → Bool
  | _, [] => true
  | 0, _ => false
  | fuel + 1, chars =>
    match chars.dropWhile (· = ' ') with
    | [] => true
    | rest =>
      let name := rest.takeWhile isNameChar
      match rest.dropWhile isNameChar with
      | '=' :: value =>
        !name.isEmpty && ((dropValue? value).any fun rest => areParameters fuel rest)
      | _ => false

def parse? (text : String) : Option MediaType :=
  let chars := text.toList.map asciiLower
  let type := chars.takeWhile isNameChar
  match chars.dropWhile isNameChar with
  | '/' :: rest =>
    let subtype := rest.takeWhile isNameChar
    let parameters :=
      match rest.dropWhile isNameChar with
      | [] => some []
      | ';' :: rest => some rest
      | ' ' :: rest => some rest
      | _ => none
    if type.isEmpty || !parameters.any fun rest => areParameters rest.length rest then none
    else
      let (base, suffix) := splitSuffix subtype
      some ⟨String.ofList type, String.ofList base, suffix.map String.ofList⟩
  | _ => none

/-- JSON itself, and formats built on it. -/
def isJson (media : MediaType) : Bool :=
  media.type == "application" && (media.subtype == "json" || media.suffix == some "json")

end MediaType

end Registrar.Http
