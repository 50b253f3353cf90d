import Registrar.Json.Basic
import Registrar.ListError
import Registrar.Resource.Record

/-!
Problem details in the form of RFC 9457, and the problems that stand for failed requests. What went
wrong in storage is never part of a problem.
-/

namespace Registrar

structure FieldFault where
  detail : String
  pointer : String
deriving DecidableEq, Repr

structure Problem where
  type : String
  title : String
  status : Nat
  detail : String
  instancePath : String
  code : String
  requestId : Option String
  errors : Option (List FieldFault)
deriving DecidableEq, Repr

namespace Problem

def plain (status : Nat) (title detail : String) : Problem where
  type := "about:blank"
  title := title
  status := status
  detail := detail
  instancePath := ""
  code := ""
  requestId := none
  errors := none

def badRequest (detail : String) : Problem :=
  plain 400 "Bad Request" detail

def notFound (detail : String) : Problem :=
  plain 404 "Not Found" detail

def conflict (detail : String) : Problem :=
  plain 409 "Conflict" detail

def internalError (detail : String) : Problem :=
  plain 500 "Internal Server Error" detail

/-- The status of the response: the problem's own, if it is a possible one. -/
def statusCode (problem : Problem) : Nat :=
  if 100 ≤ problem.status ∧ problem.status ≤ 999 then problem.status else 500

def faultJson (fault : FieldFault) : Json :=
  .obj [("detail", .str fault.detail), ("pointer", .str fault.pointer)]

def json (problem : Problem) : Json :=
  .obj ([("type", .str problem.type), ("title", .str problem.title), ("status", .int problem.status),
    ("detail", .str problem.detail), ("instance", .str problem.instancePath),
    ("code", .str problem.code)] ++
    (problem.requestId.map fun id => ("request_id", Json.str id)).toList ++
    (problem.errors.map fun faults => ("errors", Json.arr (faults.map faultJson))).toList)

end Problem

/-- The problem of a failed listing. A bad parameter is pointed at, and the reason of a storage failure is withheld. -/
def ListError.problem (fault : ListError) (path : String) : Problem :=
  match fault with
  | .invalidParameter parameter reason =>
    { Problem.plain 400 "Invalid Parameter" s!"{parameter}: {reason}" with
      code := fault.code
      instancePath := path
      errors := some [⟨reason, parameter⟩] }
  | .invalidSortValue field reason =>
    { Problem.plain 400 "Invalid Parameter" s!"{field}: {reason}" with
      code := "INVALID_PARAMETER"
      instancePath := path }
  | .invalidCursor reason =>
    { Problem.plain 400 "Invalid Cursor" reason with
      code := fault.code
      instancePath := path }
  | .storage _ =>
    { Problem.plain 500 "Storage Failure" "The listing could not be completed" with
      code := fault.code
      instancePath := path }

def RecordError.problem (fault : RecordError) (path : String) : Problem :=
  match fault with
  | .notFound kind id =>
    { Problem.plain 404 "Not Found" s!"{kind.name} '{id}' was not found" with
      code := kind.codeWord ++ "_NOT_FOUND"
      instancePath := path }
  | .alreadyExists kind id =>
    { Problem.plain 409 "Already Exists" s!"{kind.name} '{id}' already exists" with
      code := kind.codeWord ++ "_ALREADY_EXISTS"
      instancePath := path }
  | .validation field reason =>
    { Problem.plain 400 "Validation Error" fault.message with
      code := "VALIDATION"
      instancePath := path
      errors := some [⟨reason, "/" ++ field⟩] }
  | .database _ =>
    { Problem.internalError "An internal error occurred" with
      code := "STORAGE_FAILURE"
      instancePath := path }

end Registrar
