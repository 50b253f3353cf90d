import Registrar.Listing
import Registrar.Registry.Program
import Registrar.Resource.Record

/-!
What the registry asks of a store of records of one kind.
-/

namespace Registrar

/-- Why a store cannot answer: the key is taken, or something else with its causes, outermost first. -/
inductive StoreFault where
  | duplicateKey
  | failure (causes : List String)
deriving DecidableEq, Repr

def StoreFault.message : StoreFault → String
  | .duplicateKey => "duplicate key"
  | .failure causes => ": ".intercalate causes

inductive RepositoryCall (kind : ResourceKind) where
  | find (id : String)
  | insert (record : Record kind)
  | update (record : Record kind)
  | delete (id : String)
  | page (query : ListQuery) (deadline : Option Nat)

/-- Updates and deletions tell whether a record had the identifier. -/
@[reducible] def RepositoryCall.Reply {kind : ResourceKind} : RepositoryCall kind → Type
  | .find _ => Except StoreFault (Option (Record kind))
  | .insert _ => Except StoreFault Unit
  | .update _ => Except StoreFault Bool
  | .delete _ => Except StoreFault Bool
  | .page _ _ => Except ListError (Page (Record kind))

@[reducible] def Repository (kind : ResourceKind) : Interface :=
  ⟨RepositoryCall kind, RepositoryCall.Reply⟩

def Repository.inMemory {kind : ResourceKind} : (Repository kind).Handler (List (Record kind))
  | .find id, records => (.ok (records.find? (·.id = id)), records)
  | .insert record, records =>
    if records.any (·.id = record.id) then (.error .duplicateKey, records)
    else (.ok (), records ++ [record])
  | .update record, records =>
    (.ok (records.any (·.id = record.id)),
      records.map fun old => if old.id = record.id then record else old)
  | .delete id, records => (.ok (records.any (·.id = id)), records.filter (·.id ≠ id))
  | .page query _, records => (.ok (pageOfRows records kind.catalog query), records)

end Registrar
