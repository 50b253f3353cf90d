import Registrar.Registry.Service
import Registrar.Registry.Table
import Mathlib.Logic.Function.Basic

/-!
# A table as a store of records

One record at a time, a table on SQLite answers as a list of records in memory does. What it holds
is described by the record that each identifier finds.
-/

namespace Registrar

/-! ### Programs -/

namespace Program

variable {I J : Interface} {α β σ : Type}

/-- A program is run part by part, with the state handed on. -/
theorem run_bind (handler : I.Handler σ) (program : Program I α) (rest : α → Program I β)
    (state : σ) :
    (program.bind rest).run handler state
      = (rest (program.run handler state).1).run handler (program.run handler state).2 := by
  induction program generalizing state with
  | done result => rfl
  | call request next ih => exact ih _ _

/-- Carrying out each call by a program is answering each call with the run of that program. -/
theorem run_expand (handler : J.Handler σ)
    (each : (request : I.Call) → Program J (I.Reply request)) (program : Program I α) (state : σ) :
    (program.expand each).run handler state
      = program.run (fun request => (each request).run handler) state := by
  induction program generalizing state with
  | done result => rfl
  | call request next ih =>
      rw [expand, run_bind, ih]
      rfl

def calls (handler : I.Handler σ) : Program I α → σ → List I.Call
  | .done _, _ => []
  | .call request next, state =>
    let (reply, state) := handler request state
    request :: (next reply).calls handler state

end Program

/-! ### What a list of records holds -/

section Rows

variable {kind : ResourceKind} {rows : List (Record kind)} {id : String}

def recordAt (rows : List (Record kind)) (id : String) : Option (Record kind) :=
  rows.find? (·.id = id)

theorem id_of_recordAt {record : Record kind} (hrecord : recordAt rows id = some record) :
    record.id = id := by
  have hfound := List.find?_some hrecord
  exact of_decide_eq_true hfound

theorem mem_of_recordAt {record : Record kind} (hrecord : recordAt rows id = some record) :
    record ∈ rows :=
  List.mem_of_find?_eq_some hrecord

theorem any_id_eq_isSome (rows : List (Record kind)) (id : String) :
    rows.any (·.id = id) = (recordAt rows id).isSome := by
  rw [recordAt, List.isSome_find?]

theorem recordAt_eq_none_iff : recordAt rows id = none ↔ ∀ row ∈ rows, row.id ≠ id := by
  simp [recordAt]

theorem recordAt_append (record : Record kind) (hfree : recordAt rows record.id = none) :
    recordAt (rows ++ [record]) = Function.update (recordAt rows) record.id (some record) := by
  funext other
  rw [Function.update_apply]
  unfold recordAt at hfree ⊢
  rw [List.find?_append]
  split
  · next hother =>
      rw [hother, hfree]
      simp
  · next hother => simp [Ne.symm hother]

def replaceBy (record row : Record kind) : Record kind :=
  if row.id = record.id then record else row

theorem id_replaceBy (record row : Record kind) : (replaceBy record row).id = row.id := by
  unfold replaceBy
  split
  · next hsame => exact hsame.symm
  · rfl

/-- To replace the rows with an identifier is to change the map at this identifier. -/
theorem recordAt_map_replaceBy (record : Record kind) {old : Record kind}
    (hold : recordAt rows record.id = some old) :
    recordAt (rows.map (replaceBy record))
      = Function.update (recordAt rows) record.id (some record) := by
  funext other
  have hids : (fun row : Record kind => decide (row.id = other)) ∘ replaceBy record
      = fun row => decide (row.id = other) := by
    funext row
    rw [Function.comp_apply, id_replaceBy]
  rw [Function.update_apply, recordAt, List.find?_map, hids]
  change (recordAt rows other).map (replaceBy record) = _
  split
  · next hother =>
      rw [hother, hold, Option.map_some, replaceBy, if_pos (id_of_recordAt hold)]
  · next hother =>
      cases hfound : recordAt rows other with
      | none => rfl
      | some row =>
          have hid : row.id ≠ record.id := by
            rw [id_of_recordAt hfound]
            exact hother
          rw [Option.map_some, replaceBy, if_neg hid]

theorem recordAt_filter (rows : List (Record kind)) (id : String) :
    recordAt (rows.filter (·.id ≠ id)) = Function.update (recordAt rows) id none := by
  funext other
  rw [Function.update_apply, recordAt, List.find?_filter]
  split
  · next hother => simp [hother]
  · next hother =>
      unfold recordAt
      congr 1
      funext row
      by_cases hrow : row.id = other
      · simp [hrow, hother]
      · simp [hrow]

theorem map_replaceBy_of_recordAt_none {record : Record kind}
    (habsent : recordAt rows record.id = none) : rows.map (replaceBy record) = rows := by
  have hsame : ∀ row ∈ rows, replaceBy record row = id row := fun row hrow =>
    if_neg (recordAt_eq_none_iff.mp habsent row hrow)
  rw [List.map_congr_left hsame, List.map_id]

theorem filter_of_recordAt_none (habsent : recordAt rows id = none) :
    rows.filter (·.id ≠ id) = rows :=
  List.filter_eq_self.mpr fun row hrow =>
    decide_eq_true (recordAt_eq_none_iff.mp habsent row hrow)

theorem filter_map_replaceBy (record : Record kind) (rows : List (Record kind)) :
    (rows.map (replaceBy record)).filter (·.id ≠ record.id) = rows.filter (·.id ≠ record.id) := by
  have hids : (fun row : Record kind => decide (row.id ≠ record.id)) ∘ replaceBy record
      = fun row => decide (row.id ≠ record.id) := by
    funext row
    rw [Function.comp_apply, id_replaceBy]
  have hsame : ∀ row ∈ rows.filter (·.id ≠ record.id), replaceBy record row = id row :=
    fun row hrow => if_neg (of_decide_eq_true (List.mem_filter.mp hrow).2)
  rw [List.filter_map, hids, List.map_congr_left hsame, List.map_id]

theorem map_id_replaceBy (record : Record kind) (rows : List (Record kind)) :
    (rows.map (replaceBy record)).map Record.id = rows.map Record.id := by
  rw [List.map_map]
  exact List.map_congr_left fun row _ => id_replaceBy record row

end Rows

/-! ### What a table answers -/

section Table

variable {kind : ResourceKind}

def sqliteStore : (Repository kind).Handler (List (Record kind)) :=
  fun request => (RecordTable.carryOut Sql.Backend.sqlite.dialect request).run RecordTable.sqlite

/-- Statement by statement or call by call, a program comes to the same end. -/
theorem run_sqliteStore {α : Type} (program : Program (Repository kind) α)
    (rows : List (Record kind)) :
    (program.expand (RecordTable.carryOut Sql.Backend.sqlite.dialect)).run RecordTable.sqlite rows
      = program.run sqliteStore rows :=
  Program.run_expand ..

theorem sqliteStore_find (id : String) (rows : List (Record kind)) :
    sqliteStore (.find id) rows = (.ok (recordAt rows id), rows) :=
  rfl

theorem sqliteStore_insert (record : Record kind) (rows : List (Record kind)) :
    sqliteStore (.insert record) rows
      = match recordAt rows record.id with
        | some _ => (.error .duplicateKey, rows)
        | none => (.ok (), rows ++ [record]) := by
  have htaken := any_id_eq_isSome rows record.id
  unfold sqliteStore RecordTable.carryOut RecordTable.insert
  dsimp only [Program.run, RecordTable.sqlite]
  cases hfound : recordAt rows record.id with
  | some row =>
      rw [hfound, Option.isSome_some] at htaken
      rw [if_pos htaken]
      rfl
  | none =>
      rw [hfound, Option.isSome_none] at htaken
      rw [htaken, if_neg Bool.false_ne_true]
      rfl

theorem countP_id_pos_iff (rows : List (Record kind)) (id : String) :
    0 < rows.countP (·.id = id) ↔ (recordAt rows id).isSome = true := by
  rw [List.countP_pos_iff, ← any_id_eq_isSome, List.any_eq_true]

/-- A row that no statement affects is looked for once more, and is not there. -/
theorem sqliteStore_update (record : Record kind) (rows : List (Record kind)) :
    sqliteStore (.update record) rows
      = (.ok (recordAt rows record.id).isSome, rows.map (replaceBy record)) := by
  have hcount := countP_id_pos_iff rows record.id
  unfold sqliteStore RecordTable.carryOut RecordTable.update
  dsimp only [Program.run, RecordTable.sqlite]
  by_cases hfound : (recordAt rows record.id).isSome = true
  · rw [if_pos (hcount.mpr hfound), hfound]
    rfl
  · have habsent : recordAt rows record.id = none := by simpa using hfound
    have hafter : recordAt (rows.map (replaceBy record)) record.id = none := by
      rw [map_replaceBy_of_recordAt_none habsent, habsent]
    rw [if_neg (mt hcount.mp hfound), Program.run_bind, habsent]
    change (Except.ok (recordAt (rows.map (replaceBy record)) record.id).isSome, _) = _
    rw [hafter]
    rfl

theorem sqliteStore_delete (id : String) (rows : List (Record kind)) :
    sqliteStore (.delete id) rows = (.ok (recordAt rows id).isSome, rows.filter (·.id ≠ id)) := by
  have hcount := countP_id_pos_iff rows id
  unfold sqliteStore RecordTable.carryOut RecordTable.delete
  dsimp only [Program.run, RecordTable.sqlite]
  rw [Bool.eq_iff_iff.mpr (decide_eq_true_iff.trans hcount)]

end Table

end Registrar
