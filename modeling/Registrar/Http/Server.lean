import Registrar.Http.Body
import Registrar.Http.Description
import Registrar.Http.ListParams
import Registrar.Http.Route
import Registrar.Registry.Database
import Registrar.Registry.Service
import Registrar.Resource.Wire

/-!
The server: which response a request gets, as a program over the stores.
-/

namespace Registrar.Http

open Registry Text

/-- What the server adds to a request: fresh identifiers and the time. -/
structure Occasion where
  recordId : String
  requestId : String
  now : Time.Instant
deriving DecidableEq, Repr

section Handlers

variable {kind : ResourceKind}

def recordResponse {α : Type} (path : String) (success : α → Response) :
    Except RecordError α → Response
  | .ok value => success value
  | .error fault => .problem (fault.problem path)

def listRecords (terms : ListingTerms) (target : Target) : Program (Repository kind) Response :=
  match ListParams.ofTarget target with
  | .error problem => .done (.problem problem)
  | .ok params =>
    (list terms params).bind fun
      | .error fault => .done (.problem (fault.problem target.path))
      | .ok listed => .done (.json 200 (ListResponse.ofPage listed.page listed.query).json)

def createRecord (occasion : Occasion) (path : String) (request : Request) :
    Program (Repository kind) Response :=
  match request.readBody (Draft.decode kind) with
  | .error fault => .done (.problem (fault.problem path))
  | .ok draft =>
    (create draft occasion.recordId occasion.now).bind fun result =>
      .done (recordResponse path (fun record => .json 201 record.json) result)

def showRecord (path id : String) : Program (Repository kind) Response :=
  (get id).bind fun result =>
    .done (recordResponse path (fun record => .json 200 record.json) result)

def updateRecord (path id : String) (request : Request) : Program (Repository kind) Response :=
  match request.readBody (Patch.decode kind) with
  | .error fault => .done (.problem (fault.problem path))
  | .ok patch =>
    (update id patch).bind fun result =>
      .done (recordResponse path (fun record => .json 200 record.json) result)

def deleteRecord (path id : String) : Program (Repository kind) Response :=
  (delete id : Action kind Unit).bind fun result =>
    .done (recordResponse path (fun _ => .empty 204) result)

end Handlers

def health (now : Time.Instant) : Json :=
  .obj [("status", .str "healthy"), ("timestamp", .str (now.render "+00:00"))]

def respondAt (terms : ListingTerms) (occasion : Occasion) (target : Target) (request : Request)
    (method : Method) : Place → Program Stores Response
  | .health =>
    .done (if method = .get then .json 200 (health occasion.now) else .empty 405)
  | .description => .done (if method = .get then .json 200 description else .empty 405)
  | .collection kind =>
    match method with
    | .get => (listRecords terms target : Program (Repository kind) Response).inStores
    | .post => (createRecord occasion target.path request : Program (Repository kind) Response).inStores
    | _ => .done (.empty 405)
  | .member kind segment =>
    let withId (serve : String → Program (Repository kind) Response) : Program Stores Response :=
      match unescaped? segment with
      | some id => (serve id).inStores
      | none => .done (.text 400 "Invalid URL: Invalid UTF-8 in `id`")
    match method with
    | .get => withId fun id => showRecord target.path id
    | .put => withId fun id => updateRecord target.path id request
    | .delete => withId fun id => deleteRecord target.path id
    | _ => .done (.empty 405)

def route (terms : ListingTerms) (occasion : Occasion) (request : Request) (method : Method) :
    Program Stores Response :=
  let target := Target.read request.target
  if request.announcesTooMuch then .done (.text 413 "length limit exceeded")
  else
    match Place.ofPath? target.path with
    | some place => respondAt terms occasion target request method place
    | none => .done (.empty 404)

/-- The response to a request, under the request's own identifier or a fresh one. `HEAD` is answered like `GET`, without the body. -/
def respond (terms : ListingTerms) (occasion : Occasion) (request : Request) :
    Program Stores Response :=
  let requestId := (request.header? "x-request-id").getD occasion.requestId
  let answer : Program Stores Response :=
    if request.method = .head then
      (route terms occasion request .get).bind fun response => .done response.headOnly
    else route terms occasion request request.method
  answer.bind fun response => .done { response with requestId := some requestId }

end Registrar.Http
