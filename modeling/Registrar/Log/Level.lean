import Registrar.Text.Blank
import Registrar.Text.Search

/-!
Levels of log events and the thresholds that let them through.
-/

namespace Registrar.Log

inductive Level where
  | error
  | warn
  | info
  | debug
  | trace
deriving DecidableEq, Repr

namespace Level

def all : List Level :=
  [.error, .warn, .info, .debug, .trace]

def rank : Level → Nat
  | .error => 1
  | .warn => 2
  | .info => 3
  | .debug => 4
  | .trace => 5

end Level

/-- The gravest levels up to some point, or none. -/
inductive Threshold where
  | off
  | upTo (level : Level)
deriving DecidableEq, Repr

namespace Threshold

def admits : Threshold → Level → Bool
  | .off, _ => false
  | .upTo limit, level => level.rank ≤ limit.rank

def name : Threshold → String
  | .off => "off"
  | .upTo .error => "error"
  | .upTo .warn => "warn"
  | .upTo .info => "info"
  | .upTo .debug => "debug"
  | .upTo .trace => "trace"

/-- Reads a threshold in any ASCII case; what is no threshold counts as `info`. -/
def parse (text : String) : Threshold :=
  let word := String.ofList ((Text.trimChars text.toList).map Text.asciiLower)
  if word = "trace" then .upTo .trace
  else if word = "debug" then .upTo .debug
  else if word = "warn" then .upTo .warn
  else if word = "error" then .upTo .error
  else if word = "off" ∨ word = "none" then .off
  else .upTo .info

end Threshold

end Registrar.Log
