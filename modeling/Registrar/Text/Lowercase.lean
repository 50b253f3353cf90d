import Registrar.Text.CaseTable

/-!
Lower-casing of whole texts by the Unicode rules. One character may become two (`İ`), and a
capital sigma at the end of a word becomes `ς`; every other character is mapped on its own.
-/

namespace Registrar.Text

def CaseRun.holds (run : CaseRun) (code : Nat) : Bool :=
  run.first ≤ code && code ≤ run.last && (code - run.first) % run.stride == 0

def inRanges (ranges : List (Nat × Nat)) (code : Nat) : Bool :=
  ranges.any fun range => range.1 ≤ code && code ≤ range.2

def isCased (c : Char) : Bool :=
  inRanges casedRanges c.toNat

def isCaseIgnorable (c : Char) : Bool :=
  inRanges caseIgnorableRanges c.toNat

def lowerChar (c : Char) : List Char :=
  if c.toNat < 0x80 then
    if 'A' ≤ c && c ≤ 'Z' then [Char.ofNat (c.toNat + 32)] else [c]
  else if c.toNat == 0x130 then ['i', Char.ofNat 0x307]
  else
    match caseRuns.find? (·.holds c.toNat) with
    | some run => [Char.ofNat (c.toNat + run.offset).toNat]
    | none => [c]

def startsCased (chars : List Char) : Bool :=
  match chars.dropWhile isCaseIgnorable with
  | [] => false
  | c :: _ => isCased c

def endsWord (before rest : List Char) : Bool :=
  startsCased before && !startsCased rest

def lowerAt (before : List Char) (c : Char) (rest : List Char) : List Char :=
  if c = 'Σ' then (if endsWord before rest then ['ς'] else ['σ']) else lowerChar c

/-- The lower case of the list when the characters of `before` (nearest first) precede it. -/
def lowerAfter (before : List Char) : List Char → List Char
  | [] => []
  | c :: rest => lowerAt before c rest ++ lowerAfter (c :: before) rest

def lowerChars (chars : List Char) : List Char :=
  lowerAfter [] chars

def lowercase (text : String) : String :=
  String.ofList (lowerChars text.toList)

end Registrar.Text
