import Registrar.Proofs.ConcurrentCreates
import Registrar.Proofs.RecordRequests
import Registrar.Schema.Migration
import Mathlib.Data.String.Basic

/-!
# Texts and the lengths of columns

Every row that the registry hands to a store has passed the checks of its identifier and of its
label, and so do all rows that it reads back. What passed them fits the columns that the migration
declares, but for the description, which nothing checks.
-/

namespace Registrar

/-! ### Programs that keep what they rely on -/

section Keeps

variable {I : Interface} {α β σ : Type}

/-- As long as the replies are honest, the program makes only calls that may be offered, and ends as it ensures. -/
def Program.Keeps (offered : I.Call → Prop)
    (honest : (request : I.Call) → I.Reply request → Prop) (ensures : α → Prop) :
    Program I α → Prop
  | .done result => ensures result
  | .call request next =>
    offered request ∧ ∀ reply, honest request reply → (next reply).Keeps offered honest ensures

namespace Program.Keeps

variable {offered : I.Call → Prop} {honest : (request : I.Call) → I.Reply request → Prop}
  {ensures : α → Prop} {program : Program I α}

theorem bind {rest : α → Program I β} {ensuresRest : β → Prop}
    (hprogram : program.Keeps offered honest ensures)
    (hrest : ∀ result, ensures result → (rest result).Keeps offered honest ensuresRest) :
    (program.bind rest).Keeps offered honest ensuresRest := by
  induction program with
  | done result => exact hrest result hprogram
  | call request next ih =>
      exact ⟨hprogram.1, fun reply hhonest => ih reply (hprogram.2 reply hhonest)⟩

/-- A store that answers honestly in all of its states is offered nothing else in a whole run. -/
theorem run {handler : I.Handler σ} {orderly : σ → Prop}
    (hstep : ∀ request state, offered request → orderly state →
      honest request (handler request state).1 ∧ orderly (handler request state).2)
    (hprogram : program.Keeps offered honest ensures) {state : σ} (hstate : orderly state) :
    (∀ request ∈ program.calls handler state, offered request)
      ∧ ensures (program.run handler state).1 ∧ orderly (program.run handler state).2 := by
  induction program generalizing state with
  | done result =>
      refine ⟨?_, hprogram, hstate⟩
      exact fun request hrequest => absurd hrequest List.not_mem_nil
  | call request next ih =>
      obtain ⟨hhonest, hafter⟩ := hstep request state hprogram.1 hstate
      obtain ⟨hcalls, hend⟩ := ih _ (hprogram.2 _ hhonest) hafter
      exact ⟨List.forall_mem_cons.mpr ⟨hprogram.1, hcalls⟩, hend⟩

end Program.Keeps

end Keeps

/-! ### Rows that are handed over -/

section HandedOver

variable {kind : ResourceKind} {σ : Type}

structure Record.Checked (record : Record kind) : Prop where
  id : checkId record.id = .ok ()
  label : record.validate = .ok ()

def RepositoryCall.row? : RepositoryCall kind → Option (Record kind)
  | .insert record => some record
  | .update record => some record
  | _ => none

def Statement.row? : Statement kind → Option (Record kind)
  | .insert record => some record
  | .update record => some record
  | _ => none

def CheckedCall (request : RepositoryCall kind) : Prop :=
  ∀ record ∈ request.row?, record.Checked

def CheckedStatement (statement : Statement kind) : Prop :=
  ∀ record ∈ statement.row?, record.Checked

theorem CheckedCall.of_rowless {request : RepositoryCall kind} (hnone : request.row? = none) :
    CheckedCall request := by
  intro record hrow
  rw [hnone] at hrow
  contradiction

theorem CheckedStatement.of_rowless {statement : Statement kind} (hnone : statement.row? = none) :
    CheckedStatement statement := by
  intro record hrow
  rw [hnone] at hrow
  contradiction

def CheckedReply : (request : RepositoryCall kind) → request.Reply → Prop
  | .find _, reply => ∀ record, reply = .ok (some record) → record.Checked
  | .insert _, _ => True
  | .update _, _ => True
  | .delete _, _ => True
  | .page _ _, _ => True

def CheckedAnswer : (statement : Statement kind) → statement.Reply → Prop
  | .find _, reply => ∀ record, reply = .ok (some record) → record.Checked
  | .insert _, _ => True
  | .update _, _ => True
  | .delete _, _ => True
  | .scan _, _ => True

namespace Registry

theorem get_keeps (id : String) :
    (get id : Action kind (Record kind)).Keeps CheckedCall CheckedReply
      fun outcome => ∀ record, outcome = .ok record → record.Checked := by
  refine ⟨.of_rowless rfl, ?_⟩
  rintro (fault | none | found) hreply record houtcome
  · contradiction
  · contradiction
  · obtain rfl := Except.ok.inj houtcome
    exact hreply found rfl

theorem insertNew_keeps {record : Record kind} (hrecord : record.Checked) :
    (insertNew record).Keeps CheckedCall CheckedReply fun _ => True := by
  refine ⟨?_, ?_⟩
  · intro row hrow
    obtain rfl := Option.mem_some_iff.mp hrow
    exact hrecord
  · rintro (fault | done) -
    · cases fault <;> trivial
    · trivial

/-- A creation offers a record only after its checks. -/
theorem create_keeps (draft : Draft) (generated : String) (now : Time.Instant) :
    (create draft generated now : Action kind (Record kind)).Keeps CheckedCall CheckedReply
      fun _ => True := by
  unfold create
  cases hnew : newRecord kind draft generated now with
  | error fault => trivial
  | ok record =>
      obtain ⟨-, hid, hvalid⟩ := newRecord_eq_ok_iff.mp hnew
      refine ⟨.of_rowless rfl, ?_⟩
      rintro (fault | none | old) -
      · trivial
      · exact insertNew_keeps ⟨hid, hvalid⟩
      · trivial

theorem writeBack_keeps (id : String) {record : Record kind} (hrecord : record.Checked) :
    (writeBack id record).Keeps CheckedCall CheckedReply fun _ => True := by
  refine ⟨?_, ?_⟩
  · intro row hrow
    obtain rfl := Option.mem_some_iff.mp hrow
    exact hrecord
  · rintro (fault | _ | _) - <;> trivial

/-- A patch leaves the identifier of a record as it was when it was checked. -/
theorem update_keeps (id : String) (patch : Patch) :
    (update id patch : Action kind (Record kind)).Keeps CheckedCall CheckedReply
      fun _ => True := by
  apply (get_keeps id).bind
  rintro (fault | record) hfound
  · trivial
  · dsimp only
    cases hvalid : (record.apply patch).validate with
    | error fault => trivial
    | ok done =>
        have hid : checkId (record.apply patch).id = .ok () := by
          rw [record.id_apply patch]
          exact (hfound record rfl).id
        exact writeBack_keeps id ⟨hid, hvalid⟩

theorem delete_keeps (id : String) :
    (delete id : Action kind Unit).Keeps CheckedCall CheckedReply fun _ => True := by
  refine ⟨.of_rowless rfl, ?_⟩
  rintro (fault | _ | _) - <;> trivial

end Registry

theorem RecordRequest.action_keeps (request : RecordRequest) :
    (request.action : Program (Repository kind) (RecordOutcome kind)).Keeps CheckedCall CheckedReply
      fun _ => True := by
  cases request with
  | create draft generated now =>
      exact (Registry.create_keeps draft generated now).bind fun _ _ => trivial
  | get id => exact (Registry.get_keeps id).bind fun _ _ => trivial
  | update id patch => exact (Registry.update_keeps id patch).bind fun _ _ => trivial
  | delete id => exact (Registry.delete_keeps id).bind fun _ _ => trivial

namespace RecordTable

theorem find_keeps (id : String) :
    (find id : Program (RecordTable kind) _).Keeps CheckedStatement CheckedAnswer
      fun reply => ∀ record, reply = .ok (some record) → record.Checked := by
  refine ⟨.of_rowless rfl, ?_⟩
  rintro (fault | found) hanswer record hreply
  · contradiction
  · obtain rfl := Except.ok.inj hreply
    exact hanswer record rfl

/-- Honest statements make honest replies, and a checked call makes checked statements only. -/
theorem carryOut_keeps (dialect : Sql.Dialect) {request : RepositoryCall kind}
    (hrequest : CheckedCall request) :
    (carryOut dialect request).Keeps CheckedStatement CheckedAnswer (CheckedReply request) := by
  cases request with
  | find id => exact find_keeps id
  | insert record =>
      refine ⟨hrequest, ?_⟩
      rintro (fault | done) - <;> trivial
  | update record =>
      refine ⟨hrequest, ?_⟩
      rintro (fault | affected) -
      · trivial
      · dsimp only
        split
        · trivial
        · exact (find_keeps record.id).bind fun _ _ => trivial
  | delete id =>
      refine ⟨.of_rowless rfl, ?_⟩
      rintro (fault | affected) - <;> trivial
  | page query deadline =>
      unfold carryOut page
      dsimp only
      split
      · trivial
      · exact ⟨.of_rowless rfl, fun outcome _ => trivial⟩

end RecordTable

def KeyedTable.Checked (table : KeyedTable kind σ) (state : σ) : Prop :=
  ∀ id record, table.records state id = some record → record.Checked

namespace KeyedTable

variable {table : KeyedTable kind σ} {state : σ}

theorem checked_of_update {records : RecordMap kind}
    (hrecords : ∀ id record, records id = some record → record.Checked) {key : String}
    {row? : Option (Record kind)} (hrow : ∀ record ∈ row?, record.Checked) :
    ∀ id record, Function.update records key row? id = some record → record.Checked := by
  intro id record hfound
  by_cases hkey : id = key
  · rw [hkey, Function.update_self] at hfound
    exact hrow record hfound
  · rw [Function.update_of_ne hkey] at hfound
    exact hrecords id record hfound

theorem checked_answer (statement : Statement kind) (state : σ)
    (hstatement : CheckedStatement statement) (hstate : table.Checked state) :
    CheckedAnswer statement (table.answer statement state).1
      ∧ table.Checked (table.answer statement state).2 := by
  unfold Checked at hstate ⊢
  -- A failed statement leaves the records as they were, and any other one changes at most one key.
  rcases table.keyed statement state with hanswers | ⟨hfails, hsame⟩
  · generalize table.answer statement state = answered at hanswers ⊢
    obtain ⟨reply, after⟩ := answered
    dsimp only at hanswers ⊢
    generalize table.records after = records at hanswers ⊢
    cases hanswers with
    | found id =>
        refine ⟨?_, hstate⟩
        intro record hreply
        exact hstate id record (Except.ok.inj hreply)
    | inserted hfree => exact ⟨trivial, checked_of_update hstate hstatement⟩
    | updated hold haffected => exact ⟨trivial, checked_of_update hstate hstatement⟩
    | deleted hold haffected =>
        have hnone : ∀ record ∈ (none : Option (Record kind)), record.Checked :=
          fun record hrow => absurd hrow (Option.not_mem_none record)
        exact ⟨trivial, checked_of_update hstate hnone⟩
    | taken | missed | absent | scanned => exact ⟨trivial, hstate⟩
  · rw [hsame]
    refine ⟨?_, hstate⟩
    generalize (table.answer statement state).1 = reply at hfails ⊢
    cases hfails with
    | find id fault => exact fun record hreply => nomatch hreply
    | insert | update | delete => trivial

/-- The store keeps a checked table checked and answers with checked records. -/
theorem checked_store (dialect : Sql.Dialect) (request : RepositoryCall kind) (state : σ)
    (hrequest : CheckedCall request) (hstate : table.Checked state) :
    CheckedReply request (table.store dialect request state).1
      ∧ table.Checked (table.store dialect request state).2 :=
  ((RecordTable.carryOut_keeps dialect hrequest).run checked_answer hstate).2

end KeyedTable

def handedOver (store : (Repository kind).Handler σ) : List RecordRequest → σ → List (Record kind)
  | [], _ => []
  | request :: requests, state =>
    (request.action.calls store state).filterMap RepositoryCall.row? ++
      handedOver store requests (request.action.run store state).2

theorem checked_of_mem_handedOver {table : KeyedTable kind σ} (dialect : Sql.Dialect)
    {requests : List RecordRequest} {state : σ} (hstate : table.Checked state) :
    ∀ record ∈ handedOver (table.store dialect) requests state, record.Checked := by
  induction requests generalizing state with
  | nil => exact fun record hrecord => absurd hrecord List.not_mem_nil
  | cons request requests ih =>
      intro record hrecord
      obtain ⟨hcalls, -, hafter⟩ :=
        request.action_keeps.run (KeyedTable.checked_store dialect) hstate
      rcases List.mem_append.mp hrecord with hhere | hlater
      · obtain ⟨call, hcall, hrow⟩ := List.mem_filterMap.mp hhere
        exact hcalls call hcall record hrow
      · exact ih hafter record hlater

end HandedOver

/-! ### Columns -/

namespace Schema

/-- Whether a column takes a value; the length of a column counts characters. -/
def Column.Admits (column : Column) : Value → Prop
  | .null => column.required = false
  | .text content => ∃ length, column.type = .text length ∧ content.length ≤ length
  | .instant _ => column.type = .instant

end Schema

section Fits

variable {kind : ResourceKind}

def Record.Fits (record : Record kind) (schema : Schema.TableSchema) : Prop :=
  ∀ column ∈ schema.columns, column.Admits (record.cell column.name)

/-- A column counts characters where a check counts octets, so what passes the check fits the column. -/
theorem length_le_utf8ByteSize (text : String) : text.length ≤ text.utf8ByteSize := by
  obtain ⟨chars, rfl⟩ := text.exists_eq_ofList
  rw [String.length_ofList, String.utf8ByteSize_ofList]
  induction chars with
  | nil => exact Nat.le_refl 0
  | cons c chars ih =>
      have hpos := c.utf8Size_pos
      rw [List.length_cons, String.utf8Len_cons]
      omega

namespace Record

theorem Checked.id_length {record : Record kind} (hchecked : record.Checked) :
    record.id.length ≤ 128 := by
  obtain ⟨-, hsize, -⟩ := checkId_eq_ok_iff.mp hchecked.id
  exact (length_le_utf8ByteSize record.id).trans hsize

theorem Checked.label_length {record : Record kind} (hchecked : record.Checked) :
    ∀ text ∈ record.label, text.length ≤ 255 := by
  intro text hlabel
  obtain ⟨-, hsize, -⟩ := validate_eq_ok_iff.mp hchecked.label text hlabel
  exact (length_le_utf8ByteSize text).trans hsize

end Record

namespace ResourceKind

theorem textDefinition_admits_iff {name : String} {text? : Option String} :
    (textDefinition name).Admits (text?.elim .null .text) ↔ ∀ text ∈ text?, text.length ≤ 255 := by
  cases text? with
  | none => exact iff_of_true rfl fun text htext => absurd htext (Option.not_mem_none text)
  | some text =>
      constructor
      · rintro ⟨length, htype, hlength⟩ other hother
        obtain rfl := Option.mem_some_iff.mp hother
        obtain rfl := Schema.ColumnType.text.inj htype
        exact hlength
      · exact fun hlength => ⟨255, rfl, hlength text rfl⟩

/-- The columns of a kind: identifier, label, time of creation and, if it has one, the description. -/
theorem mem_columns {kind : ResourceKind} {column : Schema.Column} :
    column ∈ kind.tableSchema.columns ↔ column = kind.idDefinition
      ∨ column = textDefinition kind.labelColumn
      ∨ (kind.describes = true ∧ column = textDefinition "description")
      ∨ column = createdDefinition := by
  unfold tableSchema
  cases kind.describes <;> simp

/-- The migration makes the table of every kind as it is declared. -/
theorem migrated_table (kind : ResourceKind) :
    (MigratedSchema.fresh.migrate Migration.createTables).2.schema.table? kind.collection
      = some kind.tableSchema := by
  cases kind <;> decide

end ResourceKind

namespace Record.Checked

variable {record : Record kind}

theorem admits (hchecked : record.Checked) {column : Schema.Column}
    (hcolumn : column ∈ kind.tableSchema.columns) (hname : column.name ≠ "description") :
    column.Admits (record.cell column.name) := by
  rcases ResourceKind.mem_columns.mp hcolumn with rfl | rfl | ⟨-, rfl⟩ | rfl
  · change kind.idDefinition.Admits (record.cell kind.idColumn)
    rw [record.cell_idColumn]
    exact ⟨128, rfl, hchecked.id_length⟩
  · change (ResourceKind.textDefinition _).Admits (record.cell kind.labelColumn)
    rw [record.cell_labelColumn]
    exact ResourceKind.textDefinition_admits_iff.mpr hchecked.label_length
  · exact absurd rfl hname
  · change ResourceKind.createdDefinition.Admits (record.cell "created_at")
    rw [record.cell_created]
    rfl

/-- Of a record that has passed its checks only the description can be too long. -/
theorem fits_iff (hchecked : record.Checked) :
    record.Fits kind.tableSchema ↔ ∀ text ∈ record.description, text.length ≤ 255 := by
  have hdescription : (ResourceKind.textDefinition "description").Admits (record.cell "description")
      ↔ ∀ text ∈ record.description, text.length ≤ 255 := by
    rw [record.cell_description]
    exact ResourceKind.textDefinition_admits_iff
  constructor
  · intro hfits
    cases hdescribes : kind.describes with
    | false =>
        rw [record.description_none hdescribes]
        exact fun text htext => absurd htext (Option.not_mem_none text)
    | true =>
        apply hdescription.mp
        exact hfits _ (ResourceKind.mem_columns.mpr (Or.inr (Or.inr (Or.inl ⟨hdescribes, rfl⟩))))
  · intro hshort column hcolumn
    by_cases hname : column.name = "description"
    · rcases ResourceKind.mem_columns.mp hcolumn with rfl | rfl | ⟨-, rfl⟩ | rfl
      · exact absurd hname (by cases kind <;> decide)
      · exact absurd hname (by cases kind <;> decide)
      · exact hdescription.mpr hshort
      · exact absurd hname (by decide)
    · exact hchecked.admits hcolumn hname

end Record.Checked

/-- **Lengths of columns.** Every row that a sequence of requests hands to a store, whatever the store and whatever the requests are made of, fits the migrated table in all columns but its description, which fits if it has at most 255 characters. -/
theorem handedOver_fits_iff {σ : Type} (table : KeyedTable kind σ) (dialect : Sql.Dialect)
    {state : σ} (hstate : table.Checked state) (requests : List RecordRequest) :
    ∃ schema, (MigratedSchema.fresh.migrate Migration.createTables).2.schema.table? kind.collection
        = some schema
      ∧ ∀ record ∈ handedOver (table.store dialect) requests state,
        (∀ column ∈ schema.columns, column.name ≠ "description" →
            column.Admits (record.cell column.name))
          ∧ (record.Fits schema ↔ ∀ text ∈ record.description, text.length ≤ 255) := by
  refine ⟨kind.tableSchema, kind.migrated_table, ?_⟩
  intro record hrecord
  have hchecked := checked_of_mem_handedOver dialect hstate record hrecord
  exact ⟨fun column hcolumn hname => hchecked.admits hcolumn hname, hchecked.fits_iff⟩

def longDescription : RecordRequest :=
  .create ⟨some "r1", some "Admin", some (String.ofList (List.replicate 256 'x'))⟩ "" ⟨0, 0⟩

/-- It is accepted on an empty table, and its row is handed over although it does not fit. -/
theorem longDescription_handedOver :
    sqliteTable.Checked ([] : List (Record .role))
      ∧ ∃ schema, (MigratedSchema.fresh.migrate Migration.createTables).2.schema.table? "roles"
          = some schema
        ∧ ∃ record ∈ handedOver (sqliteTable.store Sql.Backend.sqlite.dialect) [longDescription]
          ([] : List (Record .role)), ¬ record.Fits schema := by
  have hstate : sqliteTable.Checked ([] : List (Record .role)) :=
    fun id record hrecord => nomatch hrecord
  obtain ⟨schema, hschema, hrows⟩ :=
    handedOver_fits_iff sqliteTable Sql.Backend.sqlite.dialect hstate [longDescription]
  refine ⟨hstate, schema, hschema, ?_⟩
  have hrecord : Record.create .role "r1"
      ⟨some "r1", some "Admin", some (String.ofList (List.replicate 256 'x'))⟩ ⟨0, 0⟩
      ∈ handedOver (sqliteTable.store Sql.Backend.sqlite.dialect) [longDescription] [] := by
    decide +kernel
  refine ⟨_, hrecord, ?_⟩
  rw [(hrows _ hrecord).2]
  intro hshort
  have hlength := hshort _ rfl
  rw [String.length_ofList, List.length_replicate] at hlength
  omega

end Fits

end Registrar
