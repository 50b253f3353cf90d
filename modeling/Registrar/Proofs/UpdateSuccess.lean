import Registrar.Proofs.KeyedTable
import Mathlib.Data.List.Infix

/-!
# Updates that succeed

An update reads the record and writes it back by one statement. If that statement affects no row, the
record may already be as it is to be, or it may be gone: a look-up afterwards is to tell the one from
the other. But between the two the record may come back, so that an update succeeds by which nothing
was ever stored. Statement by statement among others, this is the only way in which that happens.
-/

namespace Registrar

open Function

variable {kind : ResourceKind} {σ : Type}

/-! ### The statements of an update -/

def RecordRequest.statements (request : RecordRequest) (dialect : Sql.Dialect) :
    Program (RecordTable kind) (RecordOutcome kind) :=
  request.action.expand (RecordTable.carryOut dialect)

namespace Updating

def concluding (id : String) (row : Record kind) :
    Except StoreFault Bool → Program (RecordTable kind) (RecordOutcome kind)
  | .error fault => .done (.error (Registry.storeError fault))
  | .ok false => .done (.error (.notFound kind id))
  | .ok true => .done (.ok (some row))

def confirming (id : String) (row : Record kind) :
    Program (RecordTable kind) (RecordOutcome kind) :=
  ((RecordTable.find row.id).bind fun found => .done (found.map Option.isSome)).bind
    (concluding id row)

def writing (id : String) (row : Record kind) : Program (RecordTable kind) (RecordOutcome kind) :=
  (RecordTable.update row).bind (concluding id row)

def reading (id : String) (patch : Patch) : Program (RecordTable kind) (RecordOutcome kind) :=
  (RecordTable.find id).bind fun
    | .error fault => .done (.error (Registry.storeError fault))
    | .ok none => .done (.error (.notFound kind id))
    | .ok (some old) =>
      match (old.apply patch).validate with
      | .error fault => .done (.error fault)
      | .ok () => writing id (old.apply patch)

end Updating

open Updating

theorem statements_update (id : String) (patch : Patch) (dialect : Sql.Dialect) :
    ((RecordRequest.update id patch).statements dialect : Program (RecordTable kind) _)
      = reading id patch := by
  have hwriting : ∀ row : Record kind,
      ((Registry.writeBack id row).bind fun outcome => .done (outcome.map some)).expand
        (RecordTable.carryOut dialect) = writing id row := by
    intro row
    refine congrArg (Program.bind (RecordTable.update row)) (funext fun reply => ?_)
    match reply with
    | .error fault => rfl
    | .ok false => rfl
    | .ok true => rfl
  refine congrArg (Program.bind (RecordTable.find id)) (funext fun reply => ?_)
  match reply with
  | .error fault => rfl
  | .ok none => rfl
  | .ok (some old) =>
      dsimp only [Program.bind]
      cases (old.apply patch).validate with
      | error fault => rfl
      | ok done => exact hwriting (old.apply patch)

/-! ### How far an update has come -/

/-- The statements before an update reads, those between its read and its write, and the row that it writes. -/
structure Attempt (kind : ResourceKind) where
  before : StatementLog kind
  between : StatementLog kind
  row : Record kind

namespace Attempt

variable (attempt : Attempt kind) (number : Nat) (id : String)

def front : StatementLog kind :=
  attempt.before ++ (number, .find id) :: attempt.between

def written : StatementLog kind :=
  attempt.front number id ++ [(number, .update attempt.row)]

def extend (entry : Nat × Statement kind) : Attempt kind :=
  { attempt with between := attempt.between ++ [entry] }

theorem front_extend (entry : Nat × Statement kind) :
    (attempt.extend entry).front number id = attempt.front number id ++ [entry] := by
  unfold front
  rw [List.append_assoc]
  rfl

end Attempt

section Attempts

variable (table : KeyedTable kind σ) (state : σ) (number : Nat) (id : String) (patch : Patch)

def Attempt.Reads (attempt : Attempt kind) : Prop :=
  ∃ old, table.after state attempt.before id = some old ∧ attempt.row = old.apply patch

/-- Between its read and its write an update lost the record to a deletion, and between the write and a second look at the record an insertion brought it back. -/
structure Recreated (attempt : Attempt kind) (later : StatementLog kind) : Prop where
  absent : table.after state (attempt.front number id) id = none
  deleted : ∃ other, (other, Statement.delete id) ∈ attempt.between
  inserted : ∃ meanwhile rest, later = meanwhile ++ (number, .find id) :: rest ∧
    ∃ other record, (other, Statement.insert record) ∈ meanwhile ∧ record.id = id

/-- How far an update has come: it has not begun, has read, has written without affecting a row, has failed, or has succeeded. -/
inductive UpdateStage (log : StatementLog kind) :
    Program (RecordTable kind) (RecordOutcome kind) → Prop where
  | waiting : UpdateStage log (reading id patch)
  | failed {fault : RecordError} : UpdateStage log (.done (.error fault))
  | holding {attempt : Attempt kind} (hlog : log = attempt.front number id)
      (hreads : attempt.Reads table state id patch) : UpdateStage log (writing id attempt.row)
  | doubting {attempt : Attempt kind} {later : StatementLog kind}
      (hlog : log = attempt.written number id ++ later)
      (hreads : attempt.Reads table state id patch)
      (hwrite : table.after state (attempt.written number id) id = some attempt.row
        ∨ table.after state (attempt.front number id) id = none
          ∧ table.after state (attempt.written number id) id = none) :
      UpdateStage log (confirming id attempt.row)
  | succeeded {attempt : Attempt kind} {later : StatementLog kind}
      (hlog : log = attempt.written number id ++ later)
      (hreads : attempt.Reads table state id patch)
      (hwrite : table.after state (attempt.written number id) id = some attempt.row
        ∨ Recreated table state number id attempt later) :
      UpdateStage log (.done (.ok (some attempt.row)))

end Attempts

section Stages

variable {table : KeyedTable kind σ} {state : σ} {number : Nat} {id : String} {patch : Patch}
  {log : StatementLog kind} {current : Interleaving (RecordTable kind) (RecordOutcome kind) σ}

theorem Attempt.Reads.id_row {attempt : Attempt kind}
    (hreads : attempt.Reads table state id patch) : attempt.row.id = id := by
  obtain ⟨old, hold, hrow⟩ := hreads
  rw [hrow, Record.id_apply]
  exact table.id_eq _ id old hold

theorem Recreated.concat {attempt : Attempt kind} {later : StatementLog kind}
    (hrecreated : Recreated table state number id attempt later)
    (entry : Nat × Statement kind) :
    Recreated table state number id attempt (later ++ [entry]) where
  absent := hrecreated.absent
  deleted := hrecreated.deleted
  inserted := by
    obtain ⟨meanwhile, rest, hlater, hinserted⟩ := hrecreated.inserted
    refine ⟨meanwhile, rest ++ [entry], ?_, hinserted⟩
    rw [hlater, List.append_assoc, List.cons_append]

/-- What the others do leaves an update where it is. -/
theorem UpdateStage.concat {program : Program (RecordTable kind) (RecordOutcome kind)}
    (hstage : UpdateStage table state number id patch log program)
    (entry : Nat × Statement kind) :
    UpdateStage table state number id patch (log ++ [entry]) program := by
  cases hstage with
  | waiting => exact .waiting
  | failed => exact .failed
  | @holding attempt hlog hreads =>
      have hextended : log ++ [entry] = (attempt.extend entry).front number id := by
        rw [hlog, attempt.front_extend]
      have hholding : UpdateStage table state number id patch (log ++ [entry])
          (writing id (attempt.extend entry).row) := .holding hextended hreads
      exact hholding
  | doubting hlog hreads hwrite =>
      exact .doubting (by rw [hlog, List.append_assoc]) hreads hwrite
  | succeeded hlog hreads hwrite =>
      refine .succeeded (by rw [hlog, List.append_assoc]) hreads ?_
      exact hwrite.imp_right fun hrecreated => hrecreated.concat entry

structure Followed (table : KeyedTable kind σ) (state : σ) (number : Nat) (id : String)
    (patch : Patch) (current : Interleaving (RecordTable kind) (RecordOutcome kind) σ) :
    Prop where
  state_eq : current.state = Interleaving.replay table.answer state current.log
  stage : ∃ program, current.programs[number]? = some program ∧
    UpdateStage table state number id patch current.log program

theorem Followed.records_eq (hfollowed : Followed table state number id patch current) :
    table.records current.state = table.after state current.log := by
  rw [hfollowed.state_eq]
  rfl

/-- The records after a statement of the update are those after the log with it. -/
theorem Followed.after_concat (hfollowed : Followed table state number id patch current)
    (statement : Statement kind) :
    table.after state (current.log ++ [(number, statement)])
      = table.records (table.answer statement current.state).2 := by
  unfold KeyedTable.after
  rw [Interleaving.replay_concat, hfollowed.state_eq]

/-- The answer to a statement of the update brings it to its next stage. -/
theorem Followed.answered (hfollowed : Followed table state number id patch current)
    {statement : Statement kind}
    {next : statement.Reply → Program (RecordTable kind) (RecordOutcome kind)}
    (hprogram : current.programs[number]?
      = some (.call (I := RecordTable kind) statement next))
    (hstage : UpdateStage table state number id patch (current.log ++ [(number, statement)])
      (next (table.answer statement current.state).1)) :
    Followed table state number id patch (current.step table.answer number) where
  state_eq := Interleaving.state_step hfollowed.state_eq number
  stage := by
    refine ⟨_, Interleaving.getElem?_step_self hprogram, ?_⟩
    rw [Interleaving.step_of_call hprogram]
    exact hstage

theorem Followed.step_reading (hfollowed : Followed table state number id patch current)
    (hprogram : current.programs[number]? = some (reading id patch)) :
    Followed table state number id patch (current.step table.answer number) := by
  refine hfollowed.answered hprogram ?_
  obtain hanswers | ⟨hfails, -⟩ := table.keyed (.find id) current.state
  · obtain ⟨hreply, -⟩ := hanswers.of_find
    rw [hreply, hfollowed.records_eq]
    cases hold : table.after state current.log id with
    | none => exact .failed
    | some old =>
        have hreads : Attempt.Reads table state id patch ⟨current.log, [], old.apply patch⟩ :=
          ⟨old, hold, rfl⟩
        dsimp only [Program.bind]
        cases (old.apply patch).validate with
        | error fault => exact .failed
        | ok done => exact .holding rfl hreads
  · obtain ⟨fault, hreply⟩ := hfails.of_find
    rw [hreply]
    exact .failed

/-- A write that affects a row succeeds at once, and one that affects none waits for a second look. -/
theorem Followed.step_writing (hfollowed : Followed table state number id patch current)
    {attempt : Attempt kind} (hlog : current.log = attempt.front number id)
    (hreads : attempt.Reads table state id patch)
    (hprogram : current.programs[number]? = some (writing id attempt.row)) :
    Followed table state number id patch (current.step table.answer number) := by
  refine hfollowed.answered hprogram ?_
  have hwritten : current.log ++ [(number, .update attempt.row)]
      = attempt.written number id ++ [] := by
    rw [hlog, List.append_nil]
    rfl
  have hafter := hfollowed.after_concat (.update attempt.row)
  rw [hwritten, List.append_nil] at hafter
  obtain hanswers | ⟨hfails, -⟩ := table.keyed (.update attempt.row) current.state
  · obtain hstored | ⟨habsent, hreply, hsame⟩ := hanswers.of_update
    · -- The row is stored, whether or not the database counts it as changed.
      rw [← hafter, hreads.id_row] at hstored
      cases hreply : (table.answer (.update attempt.row) current.state).1 with
      | error fault => exact .failed
      | ok affected =>
          dsimp only [Program.bind]
          split
          · exact .succeeded hwritten hreads (Or.inl hstored)
          · exact .doubting hwritten hreads (Or.inl hstored)
    · rw [hreply]
      rw [hfollowed.records_eq, hreads.id_row] at habsent
      have hgone : table.after state (attempt.written number id) id = none := by
        rw [hafter, hsame, hfollowed.records_eq]
        exact habsent
      rw [hlog] at habsent
      exact .doubting hwritten hreads (Or.inr ⟨habsent, hgone⟩)
  · obtain ⟨fault, hreply⟩ := hfails.of_update
    rw [hreply]
    exact .failed

/-- A record that is found although it was absent at the write has been deleted before and inserted after. -/
theorem recreated_of_found {attempt : Attempt kind} {later : StatementLog kind}
    (hreads : attempt.Reads table state id patch)
    (habsent : table.after state (attempt.front number id) id = none)
    (hgone : table.after state (attempt.written number id) id = none)
    (hfound : table.after state (attempt.written number id ++ later) id ≠ none) :
    Recreated table state number id attempt (later ++ [(number, .find id)]) where
  absent := habsent
  deleted := by
    obtain ⟨old, hold, -⟩ := hreads
    have hpresent : table.after state attempt.before id ≠ none := hold ▸ Option.some_ne_none old
    obtain ⟨other, hdelete⟩ := KeyedTable.exists_delete hpresent habsent
    obtain hread | hbetween := List.mem_cons.mp hdelete
    · cases congrArg Prod.snd hread
    · exact ⟨other, hbetween⟩
  inserted := ⟨later, [], rfl, KeyedTable.exists_insert hgone hfound⟩

/-- The second look finds what is there by then, whatever was there at the write. -/
theorem Followed.step_confirming (hfollowed : Followed table state number id patch current)
    {attempt : Attempt kind} {later : StatementLog kind}
    (hlog : current.log = attempt.written number id ++ later)
    (hreads : attempt.Reads table state id patch)
    (hwrite : table.after state (attempt.written number id) id = some attempt.row
      ∨ table.after state (attempt.front number id) id = none
        ∧ table.after state (attempt.written number id) id = none)
    (hprogram : current.programs[number]? = some (confirming id attempt.row)) :
    Followed table state number id patch (current.step table.answer number) := by
  refine hfollowed.answered hprogram ?_
  obtain hanswers | ⟨hfails, -⟩ := table.keyed (.find attempt.row.id) current.state
  · obtain ⟨hreply, -⟩ := hanswers.of_find
    rw [hreply, hfollowed.records_eq, hlog, hreads.id_row]
    cases hfound : table.after state (attempt.written number id ++ later) id with
    | none => exact .failed
    | some found =>
        refine .succeeded (List.append_assoc ..) hreads (hwrite.imp_right ?_)
        rintro ⟨habsent, hgone⟩
        exact recreated_of_found hreads habsent hgone (hfound ▸ Option.some_ne_none found)
  · obtain ⟨fault, hreply⟩ := hfails.of_find
    rw [hreply]
    exact .failed

/-- Whoever makes the next step, the update stays accounted for. -/
theorem Followed.step (hfollowed : Followed table state number id patch current) (turn : Nat) :
    Followed table state number id patch (current.step table.answer turn) := by
  obtain ⟨program, hprogram, hstage⟩ := hfollowed.stage
  by_cases hturn : turn = number
  · subst hturn
    cases hstage with
    | waiting => exact hfollowed.step_reading hprogram
    | holding hlog hreads => exact hfollowed.step_writing hlog hreads hprogram
    | doubting hlog hreads hwrite =>
        exact hfollowed.step_confirming hlog hreads hwrite hprogram
    | failed =>
        rw [Interleaving.step_of_done _ hprogram]
        exact hfollowed
    | succeeded hlog hreads hwrite =>
        rw [Interleaving.step_of_done _ hprogram]
        exact hfollowed
  · refine ⟨Interleaving.state_step hfollowed.state_eq turn, program,
      (Interleaving.getElem?_step_of_ne hturn).trans hprogram, ?_⟩
    obtain ⟨statement, next, -, hstep⟩ | hstep :=
      Interleaving.step_cases table.answer current turn
    · rw [hstep]
      exact hstage.concat (turn, statement)
    · rw [hstep]
      exact hstage

end Stages

/-- **Updates that succeed.** Among any programs on the table, an update that answers with a row has read the record and written that row. The row was stored at its write, or the record was deleted before the write and inserted again before the update looked for it. -/
theorem update_stored_or_recreated (table : KeyedTable kind σ) {state : σ} {number : Nat}
    {id : String} {patch : Patch}
    {programs : List (Program (RecordTable kind) (RecordOutcome kind))} {dialect : Sql.Dialect}
    (hprogram : programs[number]? = some ((RecordRequest.update id patch).statements dialect))
    (schedule : List Nat) {row : Record kind}
    (hrow : ((Interleaving.start programs state).run table.answer schedule).programs[number]?
      = some (.done (.ok (some row)))) :
    ∃ (attempt : Attempt kind) (later : StatementLog kind),
      ((Interleaving.start programs state).run table.answer schedule).log
          = attempt.written number id ++ later
        ∧ attempt.row = row ∧ attempt.Reads table state id patch
        ∧ (table.after state (attempt.written number id) id = some row
          ∨ Recreated table state number id attempt later) := by
  have hstart : Followed table state number id patch (.start programs state) :=
    ⟨rfl, _, hprogram.trans (congrArg some (statements_update id patch dialect)), .waiting⟩
  obtain ⟨-, program, hfinal, hstage⟩ := Interleaving.run_induction hstart
    (fun current turn hfollowed => hfollowed.step turn) schedule
  cases hstage with
  | succeeded hlog hreads hwrite =>
      rw [hrow] at hfinal
      cases Option.some.inj hfinal
      exact ⟨_, _, hlog, rfl, hreads, hwrite⟩
  | waiting | holding | doubting | failed =>
      rw [hrow] at hfinal
      cases Option.some.inj hfinal

def renamingRequests : List RecordRequest :=
  [.update "r1" ⟨some "renamed", none⟩, .delete "r1",
    .create ⟨some "r1", some "other", none⟩ "" ⟨0, 0⟩]

def roleNamed (name : String) : Record .role :=
  .create .role "r1" ⟨none, some name, none⟩ ⟨0, 0⟩

/-- The role is read, deleted, not found by the write, created again and found by the second look: the update succeeds, and at no moment has the role had the new name. -/
theorem renamed_never_stored :
    let final := (Interleaving.start
      (renamingRequests.map (·.statements Sql.Backend.sqlite.dialect)) [roleNamed "old"]).run
        RecordTable.sqlite [0, 1, 0, 2, 2, 0]
    final.programs[0]? = some (.done (.ok (some (roleNamed "renamed"))))
      ∧ (∀ front, front <+: final.log →
        sqliteTable.after [roleNamed "old"] front "r1" ≠ some (roleNamed "renamed"))
      ∧ ∃ attempt later, final.log = attempt.written 0 "r1" ++ later
        ∧ Recreated sqliteTable [roleNamed "old"] 0 "r1" attempt later := by
  intro final
  have hrow : final.programs[0]? = some (.done (.ok (some (roleNamed "renamed")))) := rfl
  have hmoments : ∀ front ∈ final.log.inits,
      sqliteTable.after [roleNamed "old"] front "r1" ≠ some (roleNamed "renamed") := by decide
  have hnever : ∀ front, front <+: final.log →
      sqliteTable.after [roleNamed "old"] front "r1" ≠ some (roleNamed "renamed") := by
    intro front hfront
    exact hmoments front ((List.mem_inits ..).mpr hfront)
  obtain ⟨attempt, later, hlog, -, -, hstored | hrecreated⟩ :=
    update_stored_or_recreated sqliteTable rfl [0, 1, 0, 2, 2, 0] hrow
  · exact absurd hstored (hnever _ ⟨later, hlog.symm⟩)
  · exact ⟨hrow, hnever, attempt, later, hlog, hrecreated⟩

end Registrar
