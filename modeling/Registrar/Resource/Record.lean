import Registrar.Resource.Kind
import Registrar.Row
import Registrar.Text.Blank
import Registrar.Text.Search

/-!
Records, the drafts they are created from and the patches that change them.
-/

namespace Registrar

open Time

/-- A record of the given kind. Only kinds with descriptions have records with one. -/
structure Record (kind : ResourceKind) where
  id : String
  label : Option String
  description : Option String
  created : Instant
  description_none : kind.describes = false → description = none
deriving DecidableEq, Repr

structure Draft where
  id : Option String
  label : Option String
  description : Option String
deriving DecidableEq, Repr

/-- A partial update; what is none stays as it is. -/
structure Patch where
  label : Option String
  description : Option String
deriving DecidableEq, Repr

inductive RecordError where
  | notFound (kind : ResourceKind) (id : String)
  | alreadyExists (kind : ResourceKind) (id : String)
  | validation (field reason : String)
  | database (reason : String)
deriving DecidableEq, Repr

def RecordError.message : RecordError → String
  | .notFound kind id => s!"{kind.name} not found: {id}"
  | .alreadyExists kind id => s!"{kind.name} already exists: {id}"
  | .validation field reason => s!"invalid {field}: {reason}"
  | .database reason => s!"database error: {reason}"

def maxIdBytes : Nat := 128

def maxTextBytes : Nat := 255

def checkId (id : String) : Except RecordError Unit :=
  if Text.isBlankText id then .error (.validation "id" "must not be empty")
  else if maxIdBytes < id.utf8ByteSize then
    .error (.validation "id" s!"must be at most {maxIdBytes} bytes")
  else if '/' ∈ id.toList then .error (.validation "id" "must not contain '/'")
  else .ok ()

def checkText (field : String) : Option String → Except RecordError Unit
  | none => .ok ()
  | some text =>
    if Text.isBlankText text then .error (.validation field "must not be blank")
    else if maxTextBytes < text.utf8ByteSize then
      .error (.validation field s!"must be at most {maxTextBytes} bytes")
    else .ok ()

namespace Record

variable {kind : ResourceKind}

def create (kind : ResourceKind) (id : String) (draft : Draft) (now : Instant) : Record kind where
  id := id
  label := draft.label
  description := if kind.describes then draft.description else none
  created := now
  description_none := by intro plain; simp [plain]

def apply (record : Record kind) (patch : Patch) : Record kind where
  id := record.id
  label := patch.label <|> record.label
  description := if kind.describes then patch.description <|> record.description else none
  created := record.created
  description_none := by intro plain; simp [plain]

def validate (record : Record kind) : Except RecordError Unit := do
  checkText kind.labelField record.label
  match kind, record.label with
  | .user, some email =>
    if '@' ∈ email.toList then .ok () else .error (.validation "email" "must contain '@'")
  | _, _ => .ok ()

def value (record : Record kind) (field : String) : Value :=
  if field = kind.idField then .text record.id
  else if field = kind.labelField then record.label.elim .null .text
  else if field = "createdAt" then .instant record.created
  else .null

instance : Row (Record kind) where
  value := value

end Record

end Registrar
