import Registrar.Text.Search

/-!
Paths of files as texts with `/` between their parts.
-/

namespace Registrar.Path

def isAbsolute (path : String) : Bool :=
  path.toList.head? == some '/'

/-- The path seen from a base directory: itself if absolute, else appended to the base. -/
def join (base path : String) : String :=
  if isAbsolute path then path
  else if base.isEmpty || base.toList.getLast? == some '/' then base ++ path
  else base ++ "/" ++ path

def parts (path : String) : List String :=
  (Text.split '/' path).filter fun part => part != "" && part != "."

/-- The place in the file tree that the parts lead to; two dots lead one level up. -/
def resolve (parts : List String) : List String :=
  (parts.foldl (fun place part => if part = ".." then place.drop 1 else part :: place) []).reverse

def place (current path : String) : List String :=
  resolve (parts (join current path))

def parent? (path : String) : Option (List String) :=
  match (parts path).reverse with
  | [] => none
  | _ :: rest => some rest.reverse

end Registrar.Path
