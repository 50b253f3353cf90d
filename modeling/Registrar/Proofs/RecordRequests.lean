import Registrar.Proofs.RecordChecks
import Registrar.Proofs.RecordStore
import Mathlib.Data.List.Nodup

/-!
# Requests about one record

All that a request can do to a table of records, whatever the table holds: it fails and changes
nothing, or it reads, adds, replaces or removes one record. So no request spoils what the records of
a table have in common.
-/

namespace Registrar

open Time

/-- A request about one record. A creation comes with the identifier that is generated for it and with a reading of the clock. -/
inductive RecordRequest where
  | create (draft : Draft) (generated : String) (now : Instant)
  | get (id : String)
  | update (id : String) (patch : Patch)
  | delete (id : String)

abbrev RecordOutcome (kind : ResourceKind) :=
  Except RecordError (Option (Record kind))

namespace RecordRequest

variable {kind : ResourceKind}

def target : RecordRequest → String
  | .create draft generated _ => Registry.chosenId draft generated
  | .get id => id
  | .update id _ => id
  | .delete id => id

def isCreation : RecordRequest → Bool
  | .create .. => true
  | _ => false

def action : RecordRequest → Program (Repository kind) (RecordOutcome kind)
  | .create draft generated now =>
    (Registry.create draft generated now).bind fun outcome => .done (outcome.map some)
  | .get id => (Registry.get id).bind fun outcome => .done (outcome.map some)
  | .update id patch => (Registry.update id patch).bind fun outcome => .done (outcome.map some)
  | .delete id => (Registry.delete id).bind fun outcome => .done (outcome.map fun _ => none)

def serve (request : RecordRequest) (rows : List (Record kind)) :
    RecordOutcome kind × List (Record kind) :=
  (request.action.expand (RecordTable.carryOut Sql.Backend.sqlite.dialect)).run RecordTable.sqlite
    rows

end RecordRequest

section Serve

variable {kind : ResourceKind} {rows : List (Record kind)}

/-- All that a request can do: its outcome, and the table after it. -/
inductive Served (rows : List (Record kind)) :
    RecordRequest → RecordOutcome kind → List (Record kind) → Prop where
  | refused {draft : Draft} {generated : String} {now : Instant} {fault : RecordError}
      (hnew : Registry.newRecord kind draft generated now = .error fault) :
      Served rows (.create draft generated now) (.error fault) rows
  | taken {draft : Draft} {generated : String} {now : Instant} {record old : Record kind}
      (hnew : Registry.newRecord kind draft generated now = .ok record)
      (hold : recordAt rows record.id = some old) :
      Served rows (.create draft generated now) (.error (.alreadyExists kind record.id)) rows
  | created {draft : Draft} {generated : String} {now : Instant} {record : Record kind}
      (hnew : Registry.newRecord kind draft generated now = .ok record)
      (hfree : recordAt rows record.id = none) :
      Served rows (.create draft generated now) (.ok (some record)) (rows ++ [record])
  | absent {request : RecordRequest} (hrequest : request.isCreation = false)
      (habsent : recordAt rows request.target = none) :
      Served rows request (.error (.notFound kind request.target)) rows
  | found {id : String} {record : Record kind} (hrecord : recordAt rows id = some record) :
      Served rows (.get id) (.ok (some record)) rows
  | spoiled {id : String} {patch : Patch} {record : Record kind} {fault : RecordError}
      (hrecord : recordAt rows id = some record)
      (hinvalid : (record.apply patch).validate = .error fault) :
      Served rows (.update id patch) (.error fault) rows
  | updated {id : String} {patch : Patch} {record : Record kind}
      (hrecord : recordAt rows id = some record)
      (hvalid : (record.apply patch).validate = .ok ()) :
      Served rows (.update id patch) (.ok (some (record.apply patch)))
        (rows.map (replaceBy (record.apply patch)))
  | deleted {id : String} {record : Record kind} (hrecord : recordAt rows id = some record) :
      Served rows (.delete id) (.ok none) (rows.filter (·.id ≠ id))

theorem get_run (id : String) (rows : List (Record kind)) :
    (Registry.get id : Registry.Action kind (Record kind)).run sqliteStore rows
      = (match recordAt rows id with
        | none => .error (.notFound kind id)
        | some record => .ok record, rows) := by
  unfold Registry.get
  rw [Program.run, sqliteStore_find]
  cases recordAt rows id <;> rfl

theorem create_served (draft : Draft) (generated : String) (now : Instant)
    (rows : List (Record kind)) :
    Served rows (.create draft generated now)
      ((RecordRequest.create draft generated now).action.run sqliteStore rows).1
      ((RecordRequest.create draft generated now).action.run sqliteStore rows).2 := by
  unfold RecordRequest.action
  rw [Program.run_bind]
  unfold Registry.create
  cases hnew : Registry.newRecord kind draft generated now with
  | error fault => exact .refused hnew
  | ok record =>
      dsimp only [Program.run]
      rw [sqliteStore_find]
      cases hfound : recordAt rows record.id with
      | some old => exact .taken hnew hfound
      | none =>
          dsimp only [Registry.insertNew, Program.run]
          rw [sqliteStore_insert, hfound]
          exact .created hnew hfound

theorem update_served (id : String) (patch : Patch) (rows : List (Record kind)) :
    Served rows (.update id patch)
      ((RecordRequest.update id patch).action.run sqliteStore rows).1
      ((RecordRequest.update id patch).action.run sqliteStore rows).2 := by
  unfold RecordRequest.action
  rw [Program.run_bind]
  unfold Registry.update
  rw [Program.run_bind, get_run]
  cases hfound : recordAt rows id with
  | none => exact Served.absent rfl hfound
  | some record =>
      dsimp only
      cases hvalid : (record.apply patch).validate with
      | error fault => exact .spoiled hfound hvalid
      | ok done =>
          have hid : (record.apply patch).id = id :=
            (record.id_apply patch).trans (id_of_recordAt hfound)
          dsimp only [Registry.writeBack, Program.run]
          rw [sqliteStore_update, hid, hfound]
          exact .updated hfound hvalid

/-- Running a request does one of the things that a request can do, and nothing else. -/
theorem serve_served (request : RecordRequest) (rows : List (Record kind)) :
    Served rows request (request.serve rows).1 (request.serve rows).2 := by
  unfold RecordRequest.serve
  rw [run_sqliteStore]
  cases request with
  | create draft generated now => exact create_served draft generated now rows
  | get id =>
      unfold RecordRequest.action
      rw [Program.run_bind, get_run]
      cases hfound : recordAt rows id with
      | none => exact Served.absent rfl hfound
      | some record => exact .found hfound
  | update id patch => exact update_served id patch rows
  | delete id =>
      unfold RecordRequest.action
      rw [Program.run_bind]
      dsimp only [Registry.delete, Program.run]
      rw [sqliteStore_delete]
      cases hfound : recordAt rows id with
      | none =>
          rw [filter_of_recordAt_none hfound]
          exact Served.absent rfl hfound
      | some record => exact .deleted hfound

/-! ### What every table keeps to -/

structure WellKept (rows : List (Record kind)) : Prop where
  ids_nodup : (rows.map Record.id).Nodup
  ids_storable : ∀ row ∈ rows, StorableId row.id
  validated : ∀ row ∈ rows, row.validate = .ok ()

def RecordRequest.GeneratesUuid : RecordRequest → Prop
  | .create _ generated _ => IsUuid generated
  | _ => True

theorem WellKept.nil : WellKept ([] : List (Record kind)) where
  ids_nodup := List.nodup_nil
  ids_storable := fun _ hrow => absurd hrow List.not_mem_nil
  validated := fun _ hrow => absurd hrow List.not_mem_nil

theorem WellKept.append (hrows : WellKept rows) {record : Record kind}
    (hfree : recordAt rows record.id = none) (hid : StorableId record.id)
    (hvalid : record.validate = .ok ()) : WellKept (rows ++ [record]) where
  ids_nodup := by
    rw [List.map_append, List.map_singleton, List.nodup_append]
    refine ⟨hrows.ids_nodup, List.nodup_singleton _, ?_⟩
    intro id hmem other hother
    obtain ⟨row, hrow, rfl⟩ := List.mem_map.mp hmem
    rw [List.mem_singleton.mp hother]
    exact recordAt_eq_none_iff.mp hfree row hrow
  ids_storable := List.forall_mem_append.mpr
    ⟨hrows.ids_storable, fun row hrow => List.mem_singleton.mp hrow ▸ hid⟩
  validated := List.forall_mem_append.mpr
    ⟨hrows.validated, fun row hrow => List.mem_singleton.mp hrow ▸ hvalid⟩

theorem WellKept.map_replaceBy (hrows : WellKept rows) {record : Record kind}
    (hvalid : record.validate = .ok ()) : WellKept (rows.map (replaceBy record)) where
  ids_nodup := by
    rw [map_id_replaceBy]
    exact hrows.ids_nodup
  ids_storable := by
    rw [List.forall_mem_map]
    intro row hrow
    rw [id_replaceBy]
    exact hrows.ids_storable row hrow
  validated := by
    rw [List.forall_mem_map]
    intro row hrow
    unfold replaceBy
    split
    · exact hvalid
    · exact hrows.validated row hrow

theorem WellKept.filter (hrows : WellKept rows) (p : Record kind → Bool) :
    WellKept (rows.filter p) where
  ids_nodup := hrows.ids_nodup.sublist (List.filter_sublist.map Record.id)
  ids_storable := fun row hrow => hrows.ids_storable row (List.mem_of_mem_filter hrow)
  validated := fun row hrow => hrows.validated row (List.mem_of_mem_filter hrow)

/-- Requests keep a table in order, whatever they end with. -/
theorem Served.wellKept {request : RecordRequest} {outcome : RecordOutcome kind}
    {after : List (Record kind)} (hserved : Served rows request outcome after)
    (huuid : request.GeneratesUuid) (hrows : WellKept rows) : WellKept after := by
  cases hserved with
  | created hnew hfree =>
      exact hrows.append hfree (storableId_of_newRecord hnew huuid)
        (newRecord_eq_ok_iff.mp hnew).2.2
  | updated hrecord hvalid => exact hrows.map_replaceBy hvalid
  | deleted hrecord => exact hrows.filter _
  | refused hnew => exact hrows
  | taken hnew hold => exact hrows
  | absent hrequest habsent => exact hrows
  | found hrecord => exact hrows
  | spoiled hrecord hinvalid => exact hrows

end Serve

end Registrar
