import Registrar.Net.Address

/-!
The form of a locator: after its scheme, two slashes begin the name of a host, which may have a user
before it and a port behind it. Everything else in a locator has no form to keep.
-/

namespace Registrar.Dsn

def isSkipped (c : Char) : Bool :=
  c = '\t' || c = '\n' || c = '\r'

def isPadding (c : Char) : Bool :=
  c.toNat ≤ 0x20

def significant (text : List Char) : List Char :=
  let ended := (text.reverse.dropWhile isPadding).reverse
  (ended.dropWhile isPadding).filter fun c => !isSkipped c

def endsAuthority (c : Char) : Bool :=
  c = '/' || c = '?' || c = '#'

def splitUser (authority : List Char) : Option (List Char × List Char) :=
  if '@' ∈ authority then
    let backwards := authority.reverse
    some ((backwards.dropWhile (· ≠ '@')).tail.reverse, (backwards.takeWhile (· ≠ '@')).reverse)
  else none

/-- The parts before and after the first colon outside of brackets. -/
def splitPort : Bool → List Char → List Char × Option (List Char)
  | _, [] => ([], none)
  | inside, c :: rest =>
    if c = ':' && !inside then ([], some rest)
    else
      let (host, port) := splitPort (c = '[' || (inside && c != ']')) rest
      (c :: host, port)

def isForbidden (c : Char) : Bool :=
  c.toNat = 0 || " #/:<>?@[\\]^|".toList.contains c

def isHost : List Char → Bool
  | '[' :: inner =>
    inner.getLast? == some ']' &&
      match Net.readIpv6 inner.dropLast with
      | some (_, []) => true
      | _ => false
  | name => !name.any isForbidden

/-- A port is a number of sixteen bits, or empty; a backslash ends it. -/
def isPort (port : List Char) : Bool :=
  let (digits, rest) := Net.digitRun Net.decimalDigit? port
  Net.inBase 10 digits < Nat.pow 2 16 && (rest.isEmpty || rest.head? == some '\\')

/-- Whether a host may stand where it does: without a host there is neither a port nor a user with a name or a password. -/
def hasPlace (user host : List Char) (port : Option (List Char)) : Bool :=
  !host.isEmpty || (port.isNone && (user.isEmpty || user == [':']))

def isAuthority (authority rest : List Char) : Bool :=
  let (user, place) := (splitUser authority).getD ([], authority)
  let (host, port) := splitPort false place
  let nameless := authority.head? == some '@' && user.isEmpty && place.isEmpty && !rest.isEmpty
  isHost host && port.all isPort && hasPlace user host port && !nameless

def isLocator (text : String) : Bool :=
  match significant text.toList with
  | '/' :: '/' :: rest =>
    isAuthority (rest.takeWhile fun c => !endsAuthority c) (rest.dropWhile fun c => !endsAuthority c)
  | _ => true

end Registrar.Dsn
