import Registrar.Json.Writer
import Registrar.Problem
import Registrar.Text.Search

/-!
Requests and responses.
-/

namespace Registrar.Http

inductive Method where
  | get
  | head
  | post
  | put
  | delete
  | other
deriving DecidableEq, Repr

def Method.ofName : String → Method
  | "GET" => .get
  | "HEAD" => .head
  | "POST" => .post
  | "PUT" => .put
  | "DELETE" => .delete
  | _ => .other

structure Request where
  method : Method
  target : String
  headers : List (String × String)
  body : String
deriving DecidableEq, Repr

def Request.header? (request : Request) (name : String) : Option String :=
  (request.headers.find? fun header => Text.sameIgnoringAsciiCase header.1 name).map (·.2)

inductive Payload where
  | none
  | text (content : String)
  | json (value : Json)

structure Response where
  status : Nat
  mediaType : Option String
  payload : Payload
  requestId : Option String

namespace Response

def empty (status : Nat) : Response :=
  ⟨status, none, .none, none⟩

def text (status : Nat) (content : String) : Response :=
  ⟨status, some "text/plain; charset=utf-8", .text content, none⟩

def json (status : Nat) (value : Json) : Response :=
  ⟨status, some "application/json", .json value, none⟩

def problem (problem : Problem) : Response :=
  ⟨problem.statusCode, some "application/problem+json", .json problem.json, none⟩

def headOnly (response : Response) : Response :=
  { response with payload := .none }

end Response

end Registrar.Http
