import Registrar.Schema.Migration
import Mathlib.Data.List.Induction
import Mathlib.Data.List.Nodup

/-!
# Migrations that are resumed

A migration that makes tables and then indexes on them leaves tables alone that it finds, but stops
at an index that it finds. So an attempt that was broken off can be followed by another one exactly
as long as no attempt has come to the indexes.
-/

namespace Registrar

open Schema

/-! ### Statements carried out one by one -/

namespace Schema

variable {schema : Schema}

/-- Statements after a fault are not carried out. -/
theorem run_append (front back : List Statement) :
    schema.run (front ++ back)
      = match schema.run front with
        | (after, none) => after.run back
        | (after, some fault) => (after, some fault) := by
  induction front generalizing schema with
  | nil => rfl
  | cons statement front ih =>
      rw [List.cons_append, run, run]
      cases schema.apply statement with
      | ok after => exact ih
      | error fault => rfl

theorem table?_isSome_iff {name : String} :
    (schema.table? name).isSome = true ↔ name ∈ schema.tables.map (·.name) := by
  unfold table?
  rw [List.find?_isSome]
  simp

theorem index?_isSome_iff {name : String} :
    (schema.index? name).isSome = true ↔ name ∈ schema.indexes.map (·.name) := by
  unfold index?
  rw [List.find?_isSome]
  simp

theorem run_createTables_of_standing (schema : Schema) {tables : List TableSchema}
    (hstand : ∀ table ∈ tables, table ∈ schema.tables) :
    schema.run (tables.map .createTable) = (schema, none) := by
  induction tables with
  | nil => rfl
  | cons table tables ih =>
      have hfound : (schema.table? table.name).isSome = true :=
        table?_isSome_iff.mpr (List.mem_map_of_mem (hstand table List.mem_cons_self))
      rw [List.map_cons, run, apply, if_pos hfound]
      exact ih fun other hother => hstand other (List.mem_cons_of_mem table hother)

/-- Where names differ, the next one is not taken yet. -/
theorem free_of_nodup {α : Type} {name : α → String} {made rest : List α} {next : α}
    (hnodup : ((made ++ next :: rest).map name).Nodup) :
    name next ∉ made.map name ∧ ((made ++ [next] ++ rest).map name).Nodup := by
  refine ⟨fun hname => ?_, ?_⟩
  · rw [List.map_append, List.map_cons, List.nodup_middle] at hnodup
    exact (List.nodup_cons.mp hnodup).1 (List.mem_append_left _ hname)
  · rw [List.append_assoc]
    exact hnodup

theorem run_createTables_of_fresh (schema : Schema) {tables : List TableSchema}
    (hfresh : ((schema.tables ++ tables).map (·.name)).Nodup) :
    schema.run (tables.map .createTable) = (⟨schema.tables ++ tables, schema.indexes⟩, none) := by
  induction tables generalizing schema with
  | nil => rw [List.append_nil]; rfl
  | cons table tables ih =>
      obtain ⟨hfree, hnext⟩ := free_of_nodup hfresh
      rw [List.map_cons, run, apply, if_neg (mt table?_isSome_iff.mp hfree)]
      exact (ih ⟨schema.tables ++ [table], schema.indexes⟩ hnext).trans
        (by rw [List.append_assoc]; rfl)

def Covers (tables : List TableSchema) (index : Index) : Prop :=
  ∃ table, tables.find? (·.name = index.table) = some table
    ∧ ∀ name ∈ index.columns, name ∈ table.columns.map (·.name)

theorem addIndex_of_covers {index : Index} (hcovers : Covers schema.tables index)
    (hfree : index.name ∉ schema.indexes.map (·.name)) :
    schema.addIndex index = .ok ⟨schema.tables, schema.indexes ++ [index]⟩ := by
  obtain ⟨table, htable, hcolumns⟩ := hcovers
  have hnamed : index.columns.find? (fun name => name ∉ table.columns.map (·.name)) = none := by
    rw [List.find?_eq_none]
    intro name hname
    simp only [decide_eq_true_eq, Decidable.not_not]
    exact hcolumns name hname
  unfold addIndex table?
  rw [if_neg (mt index?_isSome_iff.mp hfree), htable]
  dsimp only
  rw [hnamed]

theorem run_createIndexes_of_fresh (schema : Schema) {indexes : List Index}
    (hcovers : ∀ index ∈ indexes, Covers schema.tables index)
    (hfresh : ((schema.indexes ++ indexes).map (·.name)).Nodup) :
    schema.run (indexes.map .createIndex) = (⟨schema.tables, schema.indexes ++ indexes⟩, none) := by
  induction indexes generalizing schema with
  | nil => rw [List.append_nil]; rfl
  | cons index indexes ih =>
      obtain ⟨hfree, hnext⟩ := free_of_nodup hfresh
      have hrest : ∀ other ∈ indexes, Covers schema.tables other := fun other hother =>
        hcovers other (List.mem_cons_of_mem index hother)
      rw [List.map_cons, run, apply, addIndex_of_covers (hcovers index List.mem_cons_self) hfree]
      exact (ih ⟨schema.tables, schema.indexes ++ [index]⟩ hrest hnext).trans
        (by rw [List.append_assoc]; rfl)

/-- An index, unlike a table, cannot be made again. -/
theorem run_createIndex_of_standing {index : Index} (hstand : index ∈ schema.indexes)
    (rest : List Statement) :
    schema.run (.createIndex index :: rest) = (schema, some (.indexExists index.name)) := by
  rw [run, apply, addIndex,
    if_pos (index?_isSome_iff.mpr (List.mem_map_of_mem (f := Index.name) hstand))]

end Schema

/-! ### Tables and their indexes -/

/-- Tables, and indexes on columns of them, that have names of their own. -/
structure Layout where
  tables : List TableSchema
  first : Index
  others : List Index
  tables_nodup : (tables.map (·.name)).Nodup
  indexes_nodup : ((first :: others).map (·.name)).Nodup
  covered : ∀ index ∈ first :: others, Schema.Covers tables index

namespace Layout

variable (layout : Layout)

def indexes : List Index :=
  layout.first :: layout.others

def statements : List Schema.Statement :=
  layout.tables.map .createTable ++ layout.indexes.map .createIndex

/-- So many of the tables and so many of the indexes have been made, and nothing is entered into the ledger. -/
def reached (tables indexes : Nat) : MigratedSchema :=
  ⟨⟨layout.tables.take tables, layout.indexes.take indexes⟩, []⟩

/-- A broken off attempt has made some of the tables, or all of them and some of the indexes. -/
theorem take_statements (count : Nat) :
    layout.statements.take count
      = (layout.tables.take count).map .createTable
        ++ (layout.indexes.take (count - layout.tables.length)).map .createIndex := by
  rw [statements, List.take_append, List.map_take, List.map_take, List.length_map]

theorem run_tables (made count : Nat) :
    (layout.reached made 0).schema.run ((layout.tables.take count).map .createTable)
      = ((layout.reached (max made count) 0).schema, none) := by
  rcases Nat.le_total count made with hle | hle
  · have hstand : ∀ table ∈ layout.tables.take count, table ∈ layout.tables.take made :=
      fun table htable => (List.take_sublist_take_left hle).mem htable
    rw [Nat.max_eq_left hle]
    exact run_createTables_of_standing _ hstand
  · have hsplit : layout.tables.take count
        = layout.tables.take made ++ (layout.tables.take count).drop made := by
      have hparts := List.take_append_drop made (layout.tables.take count)
      rw [List.take_take, Nat.min_eq_left hle] at hparts
      exact hparts.symm
    have hfresh : ((layout.tables.take made ++ (layout.tables.take count).drop made).map
        (·.name)).Nodup := by
      rw [← hsplit]
      exact layout.tables_nodup.sublist ((List.take_sublist count _).map _)
    have hstanding : (layout.reached made 0).schema.run ((layout.tables.take made).map .createTable)
        = ((layout.reached made 0).schema, none) :=
      run_createTables_of_standing _ fun _ htable => htable
    rw [hsplit, List.map_append, run_append, hstanding, Nat.max_eq_right hle]
    dsimp only
    rw [run_createTables_of_fresh (layout.reached made 0).schema hfresh]
    exact congrArg (fun tables => ((⟨tables, []⟩ : Schema), (none : Option Fault))) hsplit.symm

/-- As long as there is no index, the first statements make the tables that are missing and go on to the indexes. -/
theorem run_take_of_unindexed (made count : Nat) :
    (layout.reached made 0).schema.run (layout.statements.take count)
      = ((layout.reached (max made count) (count - layout.tables.length)).schema, none) := by
  rw [take_statements, run_append, run_tables]
  dsimp only
  rcases Nat.le_total count layout.tables.length with hle | hle
  · rw [Nat.sub_eq_zero_of_le hle]
    rfl
  · have hall : layout.tables.take (max made count) = layout.tables :=
      List.take_of_length_le (Nat.le_trans hle (Nat.le_max_right made count))
    have hcovers : ∀ index ∈ layout.indexes.take (count - layout.tables.length),
        Schema.Covers (layout.reached (max made count) 0).schema.tables index := by
      intro index hindex
      change Schema.Covers (layout.tables.take (max made count)) index
      rw [hall]
      exact layout.covered index (List.mem_of_mem_take hindex)
    have hfresh : ((layout.indexes.take (count - layout.tables.length)).map (·.name)).Nodup :=
      layout.indexes_nodup.sublist ((List.take_sublist _ _).map _)
    exact run_createIndexes_of_fresh _ hcovers hfresh

/-- Once there is an index, the statements stop at it and change nothing. -/
theorem run_take_of_indexed {made indexes : Nat} (hmade : layout.tables.length ≤ made)
    (hindexes : 0 < indexes) (count : Nat) :
    (layout.reached made indexes).schema.run (layout.statements.take count)
      = ((layout.reached made indexes).schema,
        if layout.tables.length < count then some (.indexExists layout.first.name) else none) := by
  have hstand : ∀ table ∈ layout.tables.take count, table ∈ layout.tables.take made := by
    rw [List.take_of_length_le hmade]
    exact fun table => List.mem_of_mem_take
  rw [take_statements, run_append,
    run_createTables_of_standing (layout.reached made indexes).schema hstand]
  dsimp only
  split
  · next hlt =>
      obtain ⟨rest, hrest⟩ := Nat.exists_eq_add_of_lt (Nat.sub_pos_of_lt hlt)
      obtain ⟨more, rfl⟩ := Nat.exists_eq_add_of_lt hindexes
      have hfirst : layout.first ∈ (layout.reached made (0 + more + 1)).schema.indexes :=
        List.mem_cons_self
      rw [hrest]
      exact run_createIndex_of_standing hfirst _
  · next hle =>
      rw [Nat.sub_eq_zero_of_le (Nat.le_of_not_lt hle)]
      rfl

theorem notMem_applied (name : String) (tables indexes : Nat) :
    name ∉ (layout.reached tables indexes).applied :=
  List.not_mem_nil

theorem reached_of_le {made other : Nat} (hmade : layout.tables.length ≤ made)
    (hother : layout.tables.length ≤ other) (indexes : Nat) :
    layout.reached made indexes = layout.reached other indexes := by
  rw [reached, reached, List.take_of_length_le hmade, List.take_of_length_le hother]

theorem schema_reached {made indexes : Nat} (hmade : layout.tables.length ≤ made)
    (hindexes : layout.indexes.length ≤ indexes) :
    (layout.reached made indexes).schema = ⟨layout.tables, layout.indexes⟩ := by
  rw [reached, List.take_of_length_le hmade, List.take_of_length_le hindexes]

theorem take_length_statements :
    layout.statements.take (layout.tables.length + layout.indexes.length) = layout.statements :=
  List.take_of_length_le (by simp [statements])

section Attempts

variable {layout} {migration : Migration} (hup : migration.up = layout.statements)

include hup

/-- Without an index, an attempt goes on from where the furthest one has stopped. -/
theorem interrupted_of_unindexed (made count : Nat) :
    (layout.reached made 0).interrupted migration count
      = layout.reached (max made count) (count - layout.tables.length) := by
  unfold MigratedSchema.interrupted
  rw [if_neg (layout.notMem_applied migration.name made 0), hup, run_take_of_unindexed]
  rfl

theorem interrupted_of_indexed {made indexes : Nat} (hmade : layout.tables.length ≤ made)
    (hindexes : 0 < indexes) (count : Nat) :
    (layout.reached made indexes).interrupted migration count = layout.reached made indexes := by
  unfold MigratedSchema.interrupted
  rw [if_neg (layout.notMem_applied migration.name made indexes), hup,
    layout.run_take_of_indexed hmade hindexes]

theorem migrate_of_unindexed (made : Nat) :
    (layout.reached made 0).migrate migration
      = (.ok (), ⟨⟨layout.tables, layout.indexes⟩, [migration.name]⟩) := by
  have hrun := layout.run_take_of_unindexed made (layout.tables.length + layout.indexes.length)
  have hall : layout.tables.length ≤ max made (layout.tables.length + layout.indexes.length) := by
    omega
  rw [take_length_statements, Nat.add_sub_cancel_left] at hrun
  unfold MigratedSchema.migrate
  rw [if_neg (layout.notMem_applied migration.name made 0), hup, hrun,
    layout.schema_reached hall (Nat.le_refl _)]
  rfl

theorem migrate_of_indexed {made indexes : Nat} (hmade : layout.tables.length ≤ made)
    (hindexes : 0 < indexes) :
    (layout.reached made indexes).migrate migration
      = (.error (.indexExists layout.first.name), layout.reached made indexes) := by
  have hrun := layout.run_take_of_indexed hmade hindexes
    (layout.tables.length + layout.indexes.length)
  rw [take_length_statements, if_pos (Nat.lt_add_of_pos_right (by simp [Layout.indexes]))] at hrun
  unfold MigratedSchema.migrate
  rw [if_neg (layout.notMem_applied migration.name made indexes), hup, hrun]

end Attempts

end Layout

/-! ### Attempts that were broken off -/

/-- The state of a fresh database after attempts at the migration that were broken off, each after so many of its statements. -/
def Migration.brokenOff (migration : Migration) (counts : List Nat) : MigratedSchema :=
  counts.foldl (fun state count => state.interrupted migration count) .fresh

namespace Layout

variable {layout : Layout} {migration : Migration} (hup : migration.up = layout.statements)

/-- What broken-off attempts leave: the tables that the longest of them has made, until one comes to the indexes. -/
def leftOver (layout : Layout) (counts : List Nat) : MigratedSchema :=
  match counts.find? (layout.tables.length < ·) with
  | none => layout.reached (counts.foldl max 0) 0
  | some count => layout.reached count (count - layout.tables.length)

include hup

/-- What many attempts leave is what the furthest one leaves, until the first index is made. -/
theorem brokenOff_eq_leftOver (counts : List Nat) :
    migration.brokenOff counts = layout.leftOver counts := by
  induction counts using List.reverseRecOn with
  | nil => rfl
  | append_singleton counts count ih =>
      have hlast : migration.brokenOff (counts ++ [count])
          = (layout.leftOver counts).interrupted migration count := by
        rw [← ih, Migration.brokenOff, List.foldl_append]
        rfl
      rw [hlast, leftOver, leftOver, List.find?_append, List.foldl_append]
      cases hfind : counts.find? (layout.tables.length < ·) with
      | some indexing =>
          have hindexing : layout.tables.length < indexing := by
            simpa using List.find?_some hfind
          exact interrupted_of_indexed hup (Nat.le_of_lt hindexing) (Nat.sub_pos_of_lt hindexing)
            count
      | none =>
          rw [Option.none_or, List.find?_singleton]
          dsimp only
          rw [interrupted_of_unindexed hup]
          by_cases hcount : layout.tables.length < count
          · rw [if_pos (decide_eq_true hcount)]
            exact layout.reached_of_le (by omega) (Nat.le_of_lt hcount) _
          · rw [if_neg (by simp [hcount]), Nat.sub_eq_zero_of_le (Nat.le_of_not_lt hcount)]
            rfl

/-- An attempt that runs to its end succeeds exactly if none before it has come to the indexes. It then leaves all tables and indexes and is entered into the ledger; otherwise it stops at the first index, and so will every later one. -/
theorem migrate_brokenOff (counts : List Nat) :
    (migration.brokenOff counts).migrate migration
      = if ∀ count ∈ counts, count ≤ layout.tables.length
        then (.ok (), ⟨⟨layout.tables, layout.indexes⟩, [migration.name]⟩)
        else (.error (.indexExists layout.first.name), migration.brokenOff counts) := by
  rw [brokenOff_eq_leftOver hup, leftOver]
  cases hfind : counts.find? (layout.tables.length < ·) with
  | none =>
      have hshort : ∀ count ∈ counts, count ≤ layout.tables.length := by
        simpa using hfind
      rw [if_pos hshort]
      exact migrate_of_unindexed hup _
  | some indexing =>
      have hindexing : layout.tables.length < indexing := by
        simpa using List.find?_some hfind
      have hlong : ¬ ∀ count ∈ counts, count ≤ layout.tables.length := fun hshort =>
        absurd (hshort indexing (List.mem_of_find?_eq_some hfind)) (Nat.not_le_of_lt hindexing)
      rw [if_neg hlong]
      exact migrate_of_indexed hup (Nat.le_of_lt hindexing) (Nat.sub_pos_of_lt hindexing)

/-- Once an attempt has come to the indexes, no later one changes anything. -/
theorem brokenOff_append_of_indexed {counts : List Nat} {count : Nat} (hcount : count ∈ counts)
    (hindexing : layout.tables.length < count) (more : List Nat) :
    migration.brokenOff (counts ++ more) = migration.brokenOff counts := by
  have hfound : (counts.find? (layout.tables.length < ·)).isSome = true := by
    rw [List.find?_isSome]
    exact ⟨count, hcount, decide_eq_true hindexing⟩
  rw [brokenOff_eq_leftOver hup, brokenOff_eq_leftOver hup, leftOver, leftOver, List.find?_append,
    Option.or_of_isSome hfound]
  cases hfind : counts.find? (layout.tables.length < ·) with
  | none => simp [hfind] at hfound
  | some indexing => rfl

end Layout

/-! ### The tables of records -/

theorem ResourceKind.covers_listingIndexes {kind : ResourceKind} {index : Index}
    (hindex : index ∈ kind.listingIndexes) :
    Schema.Covers (ResourceKind.all.map ResourceKind.tableSchema) index := by
  refine ⟨kind.tableSchema, ?_, ?_⟩
  · obtain rfl | rfl : index = kind.listingIndex kind.labelColumn
        ∨ index = kind.listingIndex "created_at" := by
      simpa [ResourceKind.listingIndexes] using hindex
    all_goals cases kind <;> rfl
  · revert index
    cases kind <;> decide

namespace Migration

def recordLayout : Layout where
  tables := ResourceKind.all.map ResourceKind.tableSchema
  first := ResourceKind.user.listingIndex "email"
  others := (ResourceKind.all.flatMap ResourceKind.listingIndexes).tail
  tables_nodup := by decide
  indexes_nodup := by decide +kernel
  covered := by
    intro index hindex
    obtain ⟨kind, -, hkind⟩ : ∃ kind ∈ ResourceKind.all, index ∈ kind.listingIndexes :=
      List.mem_flatMap.mp hindex
    exact ResourceKind.covers_listingIndexes hkind

theorem up_createTables : createTables.up = recordLayout.statements := by
  rw [Layout.statements, recordLayout, List.map_map]
  rfl

/-- **Resumed migrations.** However often the migration of a fresh database was broken off, a whole attempt succeeds exactly if none before it has come further than the four tables, and then leaves all tables with all of their indexes. After one that has come further every attempt, broken off or whole, stops at the first index and leaves everything as it was. -/
theorem brokenOff_finished_iff (counts : List Nat) :
    (((createTables.brokenOff counts).migrate createTables).1 = .ok ()
        ↔ ∀ count ∈ counts, count ≤ ResourceKind.all.length)
      ∧ ((∀ count ∈ counts, count ≤ ResourceKind.all.length) →
        ((createTables.brokenOff counts).migrate createTables).2
          = ⟨⟨ResourceKind.all.map ResourceKind.tableSchema,
              ResourceKind.all.flatMap ResourceKind.listingIndexes⟩, [createTables.name]⟩)
      ∧ ((∃ count ∈ counts, ResourceKind.all.length < count) → ∀ more : List Nat,
        (createTables.brokenOff (counts ++ more)).migrate createTables
          = (.error (.indexExists "idx_users_email_id"), createTables.brokenOff counts)) := by
  have hwhole := Layout.migrate_brokenOff up_createTables
  have htables : recordLayout.tables.length = ResourceKind.all.length := List.length_map _
  rw [htables] at hwhole
  refine ⟨?_, ?_, ?_⟩
  · rw [hwhole]
    split
    · next hshort => exact iff_of_true rfl hshort
    · next hlong => exact iff_of_false nofun hlong
  · intro hshort
    rw [hwhole, if_pos hshort]
    rfl
  · rintro ⟨count, hcount, hindexing⟩ more
    have hlong : ¬ ∀ count ∈ counts ++ more, count ≤ ResourceKind.all.length := fun hshort =>
      absurd (hshort count (List.mem_append_left more hcount)) (Nat.not_le_of_lt hindexing)
    have hstuck := Layout.brokenOff_append_of_indexed up_createTables hcount
      (htables.symm ▸ hindexing) more
    rw [hwhole, if_neg hlong, hstuck]
    rfl

/-- Broken off after its fifth statement, which makes the first index, the migration cannot be finished. -/
theorem firstIndex_unfinished :
    createTables.up.take 5
        = ResourceKind.all.map (fun kind => .createTable kind.tableSchema)
          ++ [.createIndex (ResourceKind.user.listingIndex "email")]
      ∧ ((createTables.brokenOff [5]).migrate createTables).1
        = .error (.indexExists "idx_users_email_id")
      ∧ ¬ ∀ counts, ((createTables.brokenOff counts).migrate createTables).1 = .ok () := by
  have hfault := ((brokenOff_finished_iff [5]).2.2 ⟨5, List.mem_singleton_self 5, by decide⟩) []
  rw [List.append_nil] at hfault
  refine ⟨rfl, congrArg Prod.fst hfault, fun hall => ?_⟩
  have hshort := (brokenOff_finished_iff [5]).1.mp (hall [5])
  exact absurd (hshort 5 (List.mem_singleton_self 5)) (by decide)

end Migration

end Registrar
