import Registrar.Text.Search

/-!
Request targets: the path, and the query after it.
-/

namespace Registrar.Http

open Text

structure Target where
  path : String
  query : Option String
deriving DecidableEq, Repr

namespace Target

def afterHost (target : String) : String :=
  match cut? "://" target with
  | none => target
  | some (scheme, rest) =>
    if '/' ∈ scheme.toList ∨ '?' ∈ scheme.toList then target
    else String.ofList (rest.toList.dropWhile fun c => c ≠ '/' && c ≠ '?' && c ≠ '#')

/-- Reads a request target. A fragment is no part of it, and an empty path is the root. -/
def read (target : String) : Target :=
  let whole := (afterHost target).toList.takeWhile (· ≠ '#')
  let path := String.ofList (whole.takeWhile (· ≠ '?'))
  { path := if path.isEmpty then "/" else path
    query :=
      match whole.dropWhile (· ≠ '?') with
      | [] => none
      | _ :: rest => some (String.ofList rest) }

end Target

end Registrar.Http
