import Registrar.Registry.Repository

/-!
A store in memory in which some calls fail, to see what becomes of the failures.
-/

namespace Registrar

/-- Which calls fail, and how; insertions may also find their key taken, and updates their record gone. -/
structure FaultPlan where
  find : Option StoreFault
  insert : Option StoreFault
  update : Option StoreFault
  delete : Option StoreFault
  page : Option StoreFault
  gone : Bool
deriving DecidableEq, Repr

def Repository.faulty {kind : ResourceKind} (plan : FaultPlan) :
    (Repository kind).Handler (List (Record kind))
  | .find id, records =>
    plan.find.elim (inMemory (.find id) records) fun fault => (.error fault, records)
  | .insert record, records =>
    plan.insert.elim (inMemory (.insert record) records) fun fault => (.error fault, records)
  | .update record, records =>
    plan.update.elim
      (if plan.gone then (.ok false, records) else inMemory (.update record) records)
      fun fault => (.error fault, records)
  | .delete id, records =>
    plan.delete.elim (inMemory (.delete id) records) fun fault => (.error fault, records)
  | .page query deadline, records =>
    plan.page.elim (inMemory (.page query deadline) records) fun fault =>
      (.error (.storage fault.message), records)

end Registrar
