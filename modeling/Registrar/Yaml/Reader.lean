import Registrar.Json.Reader
import Registrar.Yaml.Scalar

/-!
Reading the part of YAML that settings are written in: block mappings and sequences, flow collections
within a line, and scalars within a line. A text that is JSON is read as such. Anchors, tags, scalars
over several lines and streams of documents are refused.
-/

namespace Registrar.Yaml

open Text

structure Line where
  indent : Nat
  content : List Char

/-- The part of a line before a comment; `before` is the character in front. A quote inside of a scalar is part of it. -/
def withoutComment (before : Char) : List Char → List Char
  | [] => []
  | c :: rest => if c = '#' && before = ' ' then [] else c :: withoutComment c rest

def isEmptyLine (line : List Char) : Bool :=
  match line.dropWhile fun c => c = ' ' || c = '\t' with
  | [] => true
  | c :: _ => c = '#'

def trimEnd (chars : List Char) : List Char :=
  (chars.reverse.dropWhile fun c => c = ' ' || c = '\t' || c = '\r').reverse

def lineOf (chars : List Char) : Line :=
  ⟨(chars.takeWhile (· = ' ')).length, chars.dropWhile (· = ' ')⟩

def linesOf (text : String) : List Line :=
  (((splitAt '\n' text.toList).map trimEnd).filter fun line => !isEmptyLine line).map lineOf

def isDone (rest : List Char) : Bool :=
  match rest.dropWhile (· = ' ') with
  | [] => true
  | c :: _ => c = '#' && rest.head? == some ' '

def flowRun : List Char → List Char × List Char
  | [] => ([], [])
  | c :: rest =>
    let ends :=
      ",[]\x7b\x7d".toList.contains c ||
        (c = ':' && (rest.isEmpty || rest.head? == some ' ' || (rest.head?.any fun d => ",[]\x7b\x7d".toList.contains d)))
    if ends then ([], c :: rest)
    else
      let (run, rest) := flowRun rest
      (c :: run, rest)

mutual

/-- Reads a value inside a flow collection and the blanks around it. Every step into a part takes up fuel. -/
def flow? : Nat → List Char → Option (Json × List Char)
  | 0, _ => none
  | fuel + 1, text =>
    let text := text.dropWhile (· = ' ')
    let read : Option (Json × List Char) :=
      match text with
      | '[' :: rest => (flowItems? fuel rest).map fun found => (.arr found.1, found.2)
      | '\x7b' :: rest => (flowMembers? fuel rest).map fun found => (.obj found.1, found.2)
      | _ =>
        if startsQuoted text then (quoted? text).map fun found => (.str found.1, found.2)
        else if startsPlain text then
          let (run, rest) := flowRun text
          some (plain (String.ofList (trimEnd run)), rest)
        else none
    read.map fun found => (found.1, found.2.dropWhile (· = ' '))

def flowItems? : Nat → List Char → Option (List Json × List Char)
  | 0, _ => none
  | fuel + 1, text =>
    match text.dropWhile (· = ' ') with
    | ']' :: rest => some ([], rest)
    | text => do
      let (item, rest) ← flow? fuel text
      match rest with
      | ']' :: rest => some ([item], rest)
      | ',' :: rest =>
        let (items, rest) ← flowItems? fuel rest
        some (item :: items, rest)
      | _ => none

def flowMembers? : Nat → List Char → Option (List (String × Json) × List Char)
  | 0, _ => none
  | fuel + 1, text =>
    match text.dropWhile (· = ' ') with
    | '\x7d' :: rest => some ([], rest)
    | text => do
      let quotedName := startsQuoted text
      let (name, rest) ←
        if quotedName then quoted? text
        else
          let (run, rest) := flowRun text
          if run.isEmpty then none else some (String.ofList (trimEnd run), rest)
      let (value, rest) ←
        match rest.dropWhile (· = ' ') with
        | ':' :: rest =>
          match rest.dropWhile (· = ' ') with
          | ',' :: rest => some (.null, ',' :: rest)
          | '\x7d' :: rest => some (.null, '\x7d' :: rest)
          | rest => flow? fuel rest
        | _ => none
      match rest with
      | '\x7d' :: rest => some ([(name, value)], rest)
      | ',' :: rest =>
        let (members, rest) ← flowMembers? fuel rest
        some ((name, value) :: members, rest)
      | _ => none

end

def plainName : List Char → Option (List Char × List Char)
  | [] => none
  | ':' :: rest =>
    if rest.isEmpty || rest.head? == some ' ' then some ([], rest)
    else (plainName rest).map fun found => (':' :: found.1, found.2)
  | c :: rest => (plainName rest).map fun found => (c :: found.1, found.2)

def splitMember? (content : List Char) : Option (String × List Char) :=
  if startsQuoted content then
    match quoted? content with
    | some (name, rest) =>
      match rest.dropWhile (· = ' ') with
      | ':' :: rest => if rest.isEmpty || rest.head? == some ' ' then some (name, rest) else none
      | _ => none
    | none => none
  else if startsPlain content then
    (plainName content).map fun found => (String.ofList (trimEnd found.1), found.2)
  else none

def inline? (text : List Char) : Option Json :=
  let text := text.dropWhile (· = ' ')
  if startsQuoted text then
    match quoted? text with
    | some (content, rest) => if isDone rest then some (.str content) else none
    | none => none
  else if text.head? == some '[' || text.head? == some '\x7b' then
    match flow? (text.length + 1) text with
    | some (value, rest) => if rest.isEmpty || rest.head? == some '#' then some value else none
    | none => none
  else if startsPlain text then
    let content := trimEnd (withoutComment ' ' text)
    if (plainName content).isSome then none else some (plain (String.ofList content))
  else none

def splitItem? (line : Line) : Option Line :=
  match line.content with
  | ['-'] => some ⟨line.indent + 1, []⟩
  | '-' :: ' ' :: rest =>
    let blanks := (rest.takeWhile (· = ' ')).length
    some ⟨line.indent + 2 + blanks, rest.drop blanks⟩
  | _ => none

def Line.isBare (line : Line) : Bool :=
  match line.content with
  | [] => true
  | c :: _ => c = '#'

mutual

/-- Reads the block that starts with the first line: as a sequence, a mapping or a scalar. Every step takes up fuel. -/
def block? : Nat → List Line → Option (Json × List Line)
  | 0, _ => none
  | _ + 1, [] => some (.null, [])
  | fuel + 1, line :: lines =>
    if (splitItem? line).isSome then
      (items? fuel line.indent (line :: lines)).map fun found => (.arr found.1, found.2)
    else if (splitMember? line.content).isSome then
      (members? fuel line.indent (line :: lines)).map fun found => (.obj found.1, found.2)
    else (inline? line.content).map fun value => (value, lines)

def items? : Nat → Nat → List Line → Option (List Json × List Line)
  | 0, _, _ => none
  | _ + 1, _, [] => some ([], [])
  | fuel + 1, indent, line :: lines =>
    match if line.indent = indent then splitItem? line else none with
    | none => if indent < line.indent then none else some ([], line :: lines)
    | some item => do
      let (value, rest) ←
        if item.isBare then nested? fuel indent false lines
        else block? fuel (item :: lines)
      let (items, rest) ← items? fuel indent rest
      some (value :: items, rest)

def members? : Nat → Nat → List Line → Option (List (String × Json) × List Line)
  | 0, _, _ => none
  | _ + 1, _, [] => some ([], [])
  | fuel + 1, indent, line :: lines =>
    if line.indent < indent then some ([], line :: lines)
    else if indent < line.indent then none
    else do
      let (name, rest) ← splitMember? line.content
      let (value, rest) ←
        if isDone rest then nested? fuel indent true lines
        else (inline? rest).map fun value => (value, lines)
      let (members, rest) ← members? fuel indent rest
      some ((name, value) :: members, rest)

/-- Reads the block below a line with this indentation, null if there is none. The items of a sequence below a name need no more of it. -/
def nested? : Nat → Nat → Bool → List Line → Option (Json × List Line)
  | 0, _, _, _ => none
  | _ + 1, _, _, [] => some (.null, [])
  | fuel + 1, indent, named, line :: lines =>
    if indent < line.indent || (named && line.indent = indent && (splitItem? line).isSome) then
      block? fuel (line :: lines)
    else some (.null, line :: lines)

end

def Line.isMark (mark : String) (line : Line) : Bool :=
  line.indent = 0 && line.content = mark.toList

def documentLines (lines : List Line) : List Line :=
  let lines := if (lines.head?.any (·.isMark "---")) then lines.tail else lines
  if lines.getLast?.any (·.isMark "...") then lines.dropLast else lines

def parse? (text : String) : Option Json :=
  match Json.parse? text with
  | some value => some value
  | none =>
    match block? (3 * text.length + 3) (documentLines (linesOf text)) with
    | some (value, []) => some value
    | _ => none

/-- Reads the members of a YAML text that is a mapping; a text that says nothing is one without members. -/
def mapping? (text : String) : Option (List (String × Json)) :=
  if (documentLines (linesOf text)).isEmpty then some []
  else
    match parse? text with
    | some (.obj members) => some members
    | _ => none

end Registrar.Yaml
