import Registrar.Json.Decode
import Registrar.Listing
import Registrar.Resource.Record

/-!
The JSON forms of records, drafts, patches and pages.
-/

namespace Registrar

namespace ResourceKind

def patchFields (kind : ResourceKind) : List String :=
  kind.labelField :: (if kind.describes then ["description"] else [])

def draftFields (kind : ResourceKind) : List String :=
  kind.idField :: kind.patchFields

def recordFields (kind : ResourceKind) : List String :=
  kind.draftFields ++ ["createdAt"]

def draftType (kind : ResourceKind) : String :=
  s!"Create{kind.typeWord}Req"

def patchType (kind : ResourceKind) : String :=
  s!"Update{kind.typeWord}Req"

def recordType (kind : ResourceKind) : String :=
  s!"{kind.typeWord}Dto"

end ResourceKind

def Draft.readField (kind : ResourceKind) (name : String) (document : Document) (draft : Draft) :
    Except Misfit Draft := do
  let text ← document.asTextOrNull
  if name = kind.idField then return { draft with id := text }
  else if name = kind.labelField then return { draft with label := text }
  else return { draft with description := text }

def Draft.decode (kind : ResourceKind) (document : Document) : Except Misfit Draft :=
  document.asRecord ⟨kind.draftType, kind.draftFields, [], true⟩ (Draft.readField kind)
    ⟨none, none, none⟩

def Patch.readField (kind : ResourceKind) (name : String) (document : Document) (patch : Patch) :
    Except Misfit Patch := do
  let text ← document.asTextOrNull
  if name = kind.labelField then return { patch with label := text }
  else return { patch with description := text }

def Patch.decode (kind : ResourceKind) (document : Document) : Except Misfit Patch :=
  document.asRecord ⟨kind.patchType, kind.patchFields, [], true⟩ (Patch.readField kind) ⟨none, none⟩

def Record.json {kind : ResourceKind} (record : Record kind) : Json :=
  .obj ([(kind.idField, .str record.id)] ++
    (record.label.map fun label => (kind.labelField, Json.str label)).toList ++
    (record.description.map fun description => ("description", Json.str description)).toList ++
    [("createdAt", .str record.created.text)])

structure CursorTexts where
  id : String
  value : Option String
deriving DecidableEq, Repr

def CursorTexts.at {kind : ResourceKind} (record : Record kind) (query : ListQuery) :
    CursorTexts where
  id := record.id
  value := if query.sort.isIdentifier then none else (record.value query.sort.field.name).raw?

def CursorTexts.json (cursor : CursorTexts) : Json :=
  .obj ([("id", .str cursor.id)] ++ (cursor.value.map fun value => ("value", Json.str value)).toList)

structure ListResponse (kind : ResourceKind) where
  results : List (Record kind)
  previous : Option CursorTexts
  next : Option CursorTexts
  hasMore : Bool
deriving DecidableEq, Repr

namespace ListResponse

variable {kind : ResourceKind}

/-- In the direction of travel a neighbour exists if more rows remain; on the other side, if the page was reached by a cursor. An empty page has no neighbours. -/
def ofPage (page : Page (Record kind)) (query : ListQuery) : ListResponse kind :=
  let arrived := query.cursor.isSome
  let (hasPrevious, hasNext) :=
    match query.direction with
    | .after => (arrived, page.info.hasMore)
    | .before => (page.info.hasMore, arrived)
  { results := page.items
    previous := if hasPrevious then page.first?.map (CursorTexts.at · query) else none
    next := if hasNext then page.last?.map (CursorTexts.at · query) else none
    hasMore := page.info.hasMore }

def json (response : ListResponse kind) : Json :=
  .obj ([("results", .arr (response.results.map Record.json))] ++
    (response.previous.map fun cursor => ("prevCursor", cursor.json)).toList ++
    (response.next.map fun cursor => ("nextCursor", cursor.json)).toList ++
    [("hasMore", .bool response.hasMore)])

end ListResponse

end Registrar
