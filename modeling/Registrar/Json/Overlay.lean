import Registrar.Json.Basic

/-!
Laying one value over another: objects are joined member by member, and everything else is
replaced. The main statement is `lookup_put`.
-/

namespace Registrar.Json

def put (name : String) (value : Json) : List (String × Json) → List (String × Json)
  | [] => [(name, value)]
  | member :: members =>
    if member.1 = name then (name, value) :: members else member :: put name value members

mutual

def overlay (base : Json) : Json → Json
  | .obj members =>
    match base with
    | .obj old => .obj (overlayMembers old members)
    | _ => .obj (overlayMembers [] members)
  | other => other

def overlayMembers (base : List (String × Json)) : List (String × Json) → List (String × Json)
  | [] => base
  | (name, value) :: members =>
    overlayMembers (put name (((base.lookup name).getD .null).overlay value) base) members

end

def nest (names : List String) (value : Json) : Json :=
  names.foldr (fun name inner => .obj [(name, inner)]) value

theorem lookup_put (name other : String) (value : Json) (members : List (String × Json)) :
    (put name value members).lookup other =
      if other = name then some value else members.lookup other := by
  induction members with
  | nil => grind [put]
  | cons member members ih => grind [put]

end Registrar.Json
