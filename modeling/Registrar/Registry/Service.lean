import Registrar.Registry.Repository

/-!
The registry of records of one kind: what it does for each request, as programs over the calls of
a store.
-/

namespace Registrar.Registry

open Time

variable {kind : ResourceKind}

abbrev Action (kind : ResourceKind) (α : Type) :=
  Program (Repository kind) (Except RecordError α)

def storeError (fault : StoreFault) : RecordError :=
  .database fault.message

def get (id : String) : Action kind (Record kind) :=
  .call (.find id) fun
    | .error fault => .done (.error (storeError fault))
    | .ok none => .done (.error (.notFound kind id))
    | .ok (some record) => .done (.ok record)

def chosenId (draft : Draft) (generated : String) : String :=
  draft.id.elim generated Text.trim

/-- The new record that a draft asks for, created at a whole microsecond, if it is a valid one. -/
def newRecord (kind : ResourceKind) (draft : Draft) (generated : String) (now : Instant) :
    Except RecordError (Record kind) := do
  let id := chosenId draft generated
  checkId id
  let record := Record.create kind id draft now.toMicroseconds
  record.validate
  return record

/-- Stores a new record. Of two who store the same identifier at once, the store tells one that the key is taken. -/
def insertNew (record : Record kind) : Action kind (Record kind) :=
  .call (.insert record) fun
    | .ok () => .done (.ok record)
    | .error .duplicateKey => .done (.error (.alreadyExists kind record.id))
    | .error fault => .done (.error (storeError fault))

def create (draft : Draft) (generated : String) (now : Instant) : Action kind (Record kind) :=
  match newRecord kind draft generated now with
  | .error fault => .done (.error fault)
  | .ok record =>
    .call (.find record.id) fun
      | .error fault => .done (.error (storeError fault))
      | .ok (some _) => .done (.error (.alreadyExists kind record.id))
      | .ok none => insertNew record

def writeBack (id : String) (record : Record kind) : Action kind (Record kind) :=
  .call (.update record) fun
    | .error fault => .done (.error (storeError fault))
    | .ok false => .done (.error (.notFound kind id))
    | .ok true => .done (.ok record)

def update (id : String) (patch : Patch) : Action kind (Record kind) :=
  (get id).bind fun
    | .error fault => .done (.error fault)
    | .ok record =>
      let changed := record.apply patch
      match changed.validate with
      | .error fault => .done (.error fault)
      | .ok () => writeBack id changed

def delete (id : String) : Action kind Unit :=
  .call (.delete id) fun
    | .error fault => .done (.error (storeError fault))
    | .ok false => .done (.error (.notFound kind id))
    | .ok true => .done (.ok ())

/-- What a listing may ask for, and the nanoseconds it may take; without a deadline it may take forever. -/
structure ListingTerms where
  policy : LimitPolicy
  deadline : Option Nat
deriving DecidableEq, Repr

structure Listed (kind : ResourceKind) where
  query : ListQuery
  page : Page (Record kind)

def list (terms : ListingTerms) (params : ListParams) :
    Program (Repository kind) (Except ListError (Listed kind)) :=
  match ListQuery.parse params kind.catalog terms.policy with
  | .error fault => .done (.error fault)
  | .ok query =>
    .call (.page query terms.deadline) fun reply => .done (reply.map fun page => ⟨query, page⟩)

end Registrar.Registry
