import Registrar.Http.MediaType
import Registrar.Http.Message
import Registrar.Json.Decode
import Registrar.Json.Reader

/-!
Bodies of requests: how long they may be, and how records are read from them.
-/

namespace Registrar.Http

open Text

def maxBodyBytes : Nat := 1024 * 1024

/-- The length that a header announces: digits after an optional plus sign, within 64 bits. -/
def announcedLength? (text : String) : Option Nat :=
  let digits :=
    match text.toList with
    | '+' :: rest => rest
    | chars => chars
  if digits.isEmpty || !digits.all isDigit || Nat.pow 2 64 ≤ digitsValue digits then none
  else some (digitsValue digits)

def Request.announced? (request : Request) : Option Nat :=
  (request.header? "content-length").bind announcedLength?

def Request.announcesTooMuch (request : Request) : Bool :=
  request.announced?.any (maxBodyBytes < ·)

def Request.readableBytes (request : Request) : Nat :=
  request.announced?.elim maxBodyBytes (min maxBodyBytes)

def Request.isJson (request : Request) : Bool :=
  ((request.header? "content-type").bind MediaType.parse?).any (·.isJson)

def notJson : String := "Failed to parse the request body as JSON"

def misfitReason : Misfit → String
  | .unfit path reason =>
    "Failed to deserialize the JSON body into the target type: " ++
      (if path.isEmpty then reason else path ++ ": " ++ reason)
  | .unreadable => notJson
  | .surplus _ => notJson

/-- Reads the body of a request. Faults of the value are found before faults of what follows it. -/
def Request.readBody {α : Type} (request : Request) (decode : Document → Except Misfit α) :
    Except RecordError α :=
  if !request.isJson then
    .error (.validation "body" "Expected request with `Content-Type: application/json`")
  else if request.readableBytes < request.body.utf8ByteSize then
    .error (.validation "body" "Failed to buffer the request body: length limit exceeded")
  else
    let reading := Document.read request.body
    match decode reading.document with
    | .error fault => .error (.validation "body" (misfitReason fault))
    | .ok value =>
      if reading.complete then .ok value else .error (.validation "body" notJson)

end Registrar.Http
