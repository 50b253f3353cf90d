import Registrar.Resource.Wire

/-!
The description of the interface: the JSON types of what is sent and received.
-/

namespace Registrar.Http

inductive Schema where
  | object (fields required : List String)
  | choice (words : List String)
deriving DecidableEq, Repr

namespace Schema

def json : Schema → Json
  | .object fields required =>
    .obj ([("type", Json.str "object")] ++
      (if required.isEmpty then [] else [("required", Json.arr (required.map .str))]) ++
      [("properties", .obj (fields.map fun field => (field, Json.obj [])))])
  | .choice words => .obj [("type", .str "string"), ("enum", .arr (words.map .str))]

def ofKind (kind : ResourceKind) : List (String × Schema) :=
  [(kind.recordType, .object kind.recordFields [kind.idField, "createdAt"]),
    (kind.draftType, .object kind.draftFields []),
    (kind.patchType, .object kind.patchFields []),
    ("ListResponse_" ++ kind.recordType,
      .object ["results", "prevCursor", "nextCursor", "hasMore"] ["results", "hasMore"])]

def all : List (String × Schema) :=
  [("Problem", .object
      ["type", "title", "status", "detail", "instance", "code", "request_id", "errors"]
      ["type", "title", "status", "detail", "instance", "code"]),
    ("ValidationError", .object ["detail", "pointer"] ["detail", "pointer"]),
    ("SortDir", .choice ["asc", "desc"]),
    ("PageInfo", .object ["limit", "hasMore"] ["limit", "hasMore"]),
    ("CursorDto", .object ["id", "value"] ["id"])] ++
  ResourceKind.all.flatMap ofKind

end Schema

def description : Json :=
  .obj [("openapi", .str "3.1.0"),
    ("info", .obj [("title", .str "Warden authorization data API"), ("version", .str "0.1.0")]),
    ("paths", .obj []),
    ("components", .obj
      [("schemas", .obj (Schema.all.map fun entry => (entry.1, entry.2.json)))])]

end Registrar.Http
