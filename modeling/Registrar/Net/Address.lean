import Registrar.Text.Search

/-!
Internet addresses with ports: the grammar of their texts, and the text of an address.
-/

namespace Registrar.Net

open Text

structure Ipv4 where
  a : UInt8
  b : UInt8
  c : UInt8
  d : UInt8
deriving DecidableEq, Repr

structure Ipv6 where
  groups : List UInt16
  length_eq : groups.length = 8
deriving DecidableEq, Repr

/-- An address and a port on it. A scope tells networks apart that use the same addresses. -/
inductive SocketAddress where
  | v4 (ip : Ipv4) (port : UInt16)
  | v6 (ip : Ipv6) (scope : UInt32) (port : UInt16)
deriving DecidableEq, Repr

def digitRun (digit? : Char → Option Nat) : List Char → List Nat × List Char
  | [] => ([], [])
  | c :: rest =>
    match digit? c with
    | some digit => ((digitRun digit? rest).1.cons digit, (digitRun digit? rest).2)
    | none => ([], c :: rest)

def decimalDigit? (c : Char) : Option Nat :=
  if isDigit c then some (c.toNat - '0'.toNat) else none

def inBase (base : Nat) (digits : List Nat) : Nat :=
  digits.foldl (fun value digit => value * base + digit) 0

def expect (mark : Char) : List Char → Option (List Char)
  | [] => none
  | c :: rest => if c = mark then some rest else none

/-- Reads a decimal number below `bound`; zeros in front say nothing. -/
def readDecimal (bound : Nat) (text : List Char) : Option (Nat × List Char) :=
  let (digits, rest) := digitRun decimalDigit? text
  if digits.isEmpty || bound ≤ inBase 10 digits then none else some (inBase 10 digits, rest)

/-- Reads an octet. Only the octet zero starts with a zero. -/
def readOctet (text : List Char) : Option (UInt8 × List Char) :=
  let (digits, rest) := digitRun decimalDigit? text
  if digits.isEmpty || 3 < digits.length || (digits.head? == some 0 && 1 < digits.length) ||
      256 ≤ inBase 10 digits then none
  else some (.ofNat (inBase 10 digits), rest)

def readGroup (text : List Char) : Option (UInt16 × List Char) :=
  let (digits, rest) := digitRun hexDigit? text
  if digits.isEmpty || 4 < digits.length then none else some (.ofNat (inBase 16 digits), rest)

def readIpv4 (text : List Char) : Option (Ipv4 × List Char) := do
  let (a, rest) ← readOctet text
  let (b, rest) ← expect '.' rest >>= readOctet
  let (c, rest) ← expect '.' rest >>= readOctet
  let (d, rest) ← expect '.' rest >>= readOctet
  some (⟨a, b, c, d⟩, rest)

def Ipv4.groups (ip : Ipv4) : List UInt16 :=
  [.ofNat (ip.a.toNat * 256 + ip.b.toNat), .ofNat (ip.c.toNat * 256 + ip.d.toNat)]

/-- Groups that have been read; nothing may follow an address of four octets at their end. -/
structure GroupRun where
  groups : List UInt16
  ended : Bool
  rest : List Char

/-- Reads at most `room` groups with colons between them. The last two may be written as four octets. -/
def readGroups : Nat → Bool → List Char → GroupRun
  | 0, _, text => ⟨[], false, text⟩
  | room + 1, first, text =>
    match if first then some text else expect ':' text with
    | none => ⟨[], false, text⟩
    | some next =>
      match if room = 0 then none else readIpv4 next with
      | some (ip, rest) => ⟨ip.groups, true, rest⟩
      | none =>
        match readGroup next with
        | none => ⟨[], false, text⟩
        | some (group, rest) =>
          let run := readGroups room false rest
          { run with groups := group :: run.groups }

def readIpv6 (text : List Char) : Option (Ipv6 × List Char) :=
  let head := readGroups 8 true text
  if h : head.groups.length = 8 then some (⟨head.groups, h⟩, head.rest)
  else if head.ended then none
  else do
    let rest ← expect ':' head.rest >>= expect ':'
    let tail := readGroups (7 - head.groups.length) true rest
    let zeros := List.replicate (8 - head.groups.length - tail.groups.length) (0 : UInt16)
    let groups := head.groups ++ zeros ++ tail.groups
    if h : groups.length = 8 then some (⟨groups, h⟩, tail.rest) else none

def readPort? (text : List Char) : Option UInt16 := do
  let (port, rest) ← expect ':' text >>= readDecimal (Nat.pow 2 16)
  if rest.isEmpty then some (.ofNat port) else none

def readScope (text : List Char) : Option (UInt32 × List Char) :=
  match expect '%' text with
  | none => some (0, text)
  | some rest => (readDecimal (Nat.pow 2 32) rest).map fun found => (.ofNat found.1, found.2)

namespace SocketAddress

def parseV4? (text : List Char) : Option SocketAddress := do
  let (ip, rest) ← readIpv4 text
  some (.v4 ip (← readPort? rest))

def parseV6? (text : List Char) : Option SocketAddress := do
  let (ip, rest) ← expect '[' text >>= readIpv6
  let (scope, rest) ← readScope rest
  let rest ← expect ']' rest
  some (.v6 ip scope (← readPort? rest))

def parse? (text : String) : Option SocketAddress :=
  parseV4? text.toList <|> parseV6? text.toList

end SocketAddress

def Ipv4.text (ip : Ipv4) : String :=
  s!"{ip.a}.{ip.b}.{ip.c}.{ip.d}"

def groupsText (groups : List UInt16) : String :=
  ":".intercalate (groups.map fun group => String.ofList (Nat.toDigits 16 group.toNat))

/-- Where the longest run of zero groups starts, the first of several, and how long it is. -/
def longestZeros (groups : List UInt16) : Nat × Nat :=
  ((List.range groups.length).map fun start =>
    (start, ((groups.drop start).takeWhile (· = 0)).length)).foldl
      (fun best run => if best.2 < run.2 then run else best) (0, 0)

/-- Four octets behind a fixed lead are written as octets, and the longest run of zeros as two colons. -/
def Ipv6.text (ip : Ipv6) : String :=
  match ip.groups with
  | [0, 0, 0, 0, 0, 0xffff, high, low] =>
    "::ffff:" ++ (⟨.ofNat (high.toNat / 256), .ofNat high.toNat, .ofNat (low.toNat / 256), .ofNat low.toNat⟩ : Ipv4).text
  | groups =>
    let (start, length) := longestZeros groups
    if length ≤ 1 then groupsText groups
    else groupsText (groups.take start) ++ "::" ++ groupsText (groups.drop (start + length))

namespace SocketAddress

def text : SocketAddress → String
  | .v4 ip port => s!"{ip.text}:{port}"
  | .v6 ip scope port =>
    let zone := if scope = 0 then "" else s!"%{scope}"
    "[" ++ ip.text ++ zone ++ s!"]:{port}"

def isLocal : SocketAddress → Bool
  | .v4 ip _ => ip.a = 127 || ip = ⟨0, 0, 0, 0⟩
  | .v6 ip _ _ => ip.groups.take 7 = List.replicate 7 0 && ip.groups.drop 7 ∈ [[0], [1]]

end SocketAddress

end Registrar.Net
