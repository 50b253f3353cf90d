/-!
Failures of list requests: bad parameters, bad sort values, bad cursors and storage failures.
-/

namespace Registrar

inductive ListError where
  | invalidParameter (parameter reason : String)
  | invalidSortValue (field reason : String)
  | invalidCursor (reason : String)
  | storage (reason : String)
deriving DecidableEq, Repr

namespace ListError

def message : ListError → String
  | .invalidParameter parameter reason => "invalid parameter `" ++ parameter ++ "`: " ++ reason
  | .invalidSortValue field reason => "invalid value for sort field `" ++ field ++ "`: " ++ reason
  | .invalidCursor reason => "invalid cursor: " ++ reason
  | .storage reason => "storage failure: " ++ reason

def code : ListError → String
  | .invalidParameter .. => "INVALID_PARAMETER"
  | .invalidSortValue .. => "INVALID_SORT_VALUE"
  | .invalidCursor .. => "INVALID_CURSOR"
  | .storage .. => "STORAGE_FAILURE"

def isClientError : ListError → Bool
  | .storage _ => false
  | _ => true

end ListError

end Registrar
