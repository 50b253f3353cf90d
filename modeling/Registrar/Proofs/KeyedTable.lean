import Registrar.Proofs.Interleaving
import Registrar.Proofs.RecordMap
import Mathlib.Data.List.Induction

/-!
# Tables with a key

What the statements on a table of records answer and leave behind, if the identifier is its key. Some
databases count the rows that a statement matches, others only those that it changes, and any
statement may fail for reasons of its own. All that is left open here, and a table on SQLite is one
that behaves like this.
-/

namespace Registrar

open Function

variable {kind : ResourceKind} {σ : Type}

/-- What a statement answers that does not fail, and the records after it. An update counts a row that it changes, and may count one that it leaves as it is. -/
inductive Answers (records : RecordMap kind) :
    (statement : Statement kind) → statement.Reply → RecordMap kind → Prop where
  | found (id : String) : Answers records (.find id) (.ok (records id)) records
  | inserted {record : Record kind} (hfree : records record.id = none) :
      Answers records (.insert record) (.ok ()) (update records record.id (some record))
  | taken {record old : Record kind} (hold : records record.id = some old) (reason : String) :
      Answers records (.insert record) (.error ⟨reason, true⟩) records
  | updated {record old : Record kind} {affected : Nat} (hold : records record.id = some old)
      (haffected : old ≠ record → 0 < affected) :
      Answers records (.update record) (.ok affected) (update records record.id (some record))
  | missed {record : Record kind} (habsent : records record.id = none) :
      Answers records (.update record) (.ok 0) records
  | deleted {id : String} {old : Record kind} {affected : Nat} (hold : records id = some old)
      (haffected : 0 < affected) :
      Answers records (.delete id) (.ok affected) (update records id none)
  | absent {id : String} (habsent : records id = none) :
      Answers records (.delete id) (.ok 0) records
  | scanned (select : Sql.Select) (outcome : ScanOutcome (Record kind)) :
      Answers records (.scan select) outcome records

inductive Fails : (statement : Statement kind) → statement.Reply → Prop where
  | find (id : String) (fault : StatementFault) : Fails (.find id) (.error fault)
  | insert (record : Record kind) (fault : StatementFault) : Fails (.insert record) (.error fault)
  | update (record : Record kind) (fault : StatementFault) : Fails (.update record) (.error fault)
  | delete (id : String) (fault : StatementFault) : Fails (.delete id) (.error fault)

/-- A table of which the identifier is the key. Each statement is carried out as a whole or, if it fails, not at all. -/
structure KeyedTable (kind : ResourceKind) (σ : Type) where
  answer : (RecordTable kind).Handler σ
  records : σ → RecordMap kind
  id_eq : ∀ (state : σ) (id : String) (record : Record kind),
    records state id = some record → record.id = id
  keyed : ∀ (statement : Statement kind) (state : σ),
    Answers (records state) statement (answer statement state).1
        (records (answer statement state).2)
      ∨ Fails statement (answer statement state).1
        ∧ records (answer statement state).2 = records state

def KeyedTable.Reliable (table : KeyedTable kind σ) : Prop :=
  ∀ (statement : Statement kind) (state : σ),
    Answers (table.records state) statement (table.answer statement state).1
      (table.records (table.answer statement state).2)

section Replies

variable {records after : RecordMap kind}

theorem Answers.of_find {id : String} {reply : Except StatementFault (Option (Record kind))}
    (hanswers : Answers records (.find id) reply after) :
    reply = .ok (records id) ∧ after = records := by
  cases hanswers with
  | found => exact ⟨rfl, rfl⟩

theorem Answers.of_insert {record : Record kind} {reply : Except StatementFault Unit}
    (hanswers : Answers records (.insert record) reply after) :
    (records record.id = none ∧ reply = .ok () ∧ after = update records record.id (some record))
      ∨ ∃ reason, records record.id ≠ none ∧ reply = .error ⟨reason, true⟩ ∧ after = records := by
  cases hanswers with
  | inserted hfree => exact Or.inl ⟨hfree, rfl, rfl⟩
  | taken hold reason =>
      exact Or.inr ⟨reason, hold ▸ Option.some_ne_none _, rfl, rfl⟩

/-- An update leaves the record as it is to be, or there is none and no row is affected. -/
theorem Answers.of_update {record : Record kind} {reply : Except StatementFault Nat}
    (hanswers : Answers records (.update record) reply after) :
    after record.id = some record
      ∨ records record.id = none ∧ reply = .ok 0 ∧ after = records := by
  cases hanswers with
  | updated hold haffected => exact Or.inl (update_self ..)
  | missed habsent => exact Or.inr ⟨habsent, rfl, rfl⟩

theorem Fails.of_find {id : String} {reply : Except StatementFault (Option (Record kind))}
    (hfails : Fails (.find id) reply) : ∃ fault, reply = .error fault := by
  cases hfails with
  | find id fault => exact ⟨fault, rfl⟩

theorem Fails.of_update {record : Record kind} {reply : Except StatementFault Nat}
    (hfails : Fails (.update record) reply) : ∃ fault, reply = .error fault := by
  cases hfails with
  | update record fault => exact ⟨fault, rfl⟩

end Replies

/-! ### SQLite -/

/-- Tables on SQLite answer as a table with a key does. -/
theorem answers_sqlite (statement : Statement kind) (rows : List (Record kind)) :
    Answers (recordAt rows) statement (RecordTable.sqlite statement rows).1
      (recordAt (RecordTable.sqlite statement rows).2) := by
  cases statement with
  | find id => exact .found id
  | insert record =>
      have htaken := any_id_eq_isSome rows record.id
      unfold RecordTable.sqlite
      cases hold : recordAt rows record.id with
      | some old =>
          rw [hold, Option.isSome_some] at htaken
          dsimp only
          rw [if_pos htaken]
          exact .taken hold _
      | none =>
          rw [hold, Option.isSome_none] at htaken
          dsimp only
          rw [if_neg (ne_true_of_eq_false htaken), recordAt_append record hold]
          exact .inserted hold
  | update record =>
      have hcount := countP_id_pos_iff rows record.id
      unfold RecordTable.sqlite
      dsimp only
      change Answers _ _ _ (recordAt (rows.map (replaceBy record)))
      cases hold : recordAt rows record.id with
      | some old =>
          rw [recordAt_map_replaceBy record hold]
          exact .updated hold fun _ => hcount.mpr (by rw [hold, Option.isSome_some])
      | none =>
          have hnone : rows.countP (·.id = record.id) = 0 := by
            rw [hold, Option.isSome_none] at hcount
            exact Nat.eq_zero_of_not_pos (mt hcount.mp Bool.false_ne_true)
          rw [map_replaceBy_of_recordAt_none hold, hnone]
          exact .missed hold
  | delete id =>
      have hcount := countP_id_pos_iff rows id
      unfold RecordTable.sqlite
      dsimp only
      cases hold : recordAt rows id with
      | some old =>
          rw [recordAt_filter]
          exact .deleted hold (hcount.mpr (by rw [hold, Option.isSome_some]))
      | none =>
          have hnone : rows.countP (·.id = id) = 0 := by
            rw [hold, Option.isSome_none] at hcount
            exact Nat.eq_zero_of_not_pos (mt hcount.mp Bool.false_ne_true)
          rw [filter_of_recordAt_none hold, hnone]
          exact .absent hold
  | scan select => exact .scanned select _

def sqliteTable : KeyedTable kind (List (Record kind)) where
  answer := RecordTable.sqlite
  records := recordAt
  id_eq := fun _ _ _ => id_of_recordAt
  keyed := fun statement rows => Or.inl (answers_sqlite statement rows)

/-- No statement on SQLite fails but an insertion whose key is taken. -/
theorem sqliteTable_reliable : (sqliteTable : KeyedTable kind (List (Record kind))).Reliable :=
  answers_sqlite

/-! ### When records come and go -/

section Presence

variable {records after : RecordMap kind} {id : String}

theorem update_some_ne_none (hpresent : records id ≠ none) (record : Record kind) :
    update records record.id (some record) id ≠ none := by
  rw [update_apply]
  split
  · exact Option.some_ne_none record
  · exact hpresent

/-- Only a deletion removes a record. -/
theorem Answers.eq_delete {statement : Statement kind} {reply : statement.Reply}
    (hanswers : Answers records statement reply after) (hbefore : records id ≠ none)
    (hafter : after id = none) : statement = .delete id := by
  cases hanswers with
  | inserted hfree => exact absurd hafter (update_some_ne_none hbefore _)
  | updated hold haffected => exact absurd hafter (update_some_ne_none hbefore _)
  | @deleted other old affected hold haffected =>
      by_cases hsame : id = other
      · rw [hsame]
      · rw [update_of_ne hsame] at hafter
        contradiction
  | found | taken | missed | absent | scanned => contradiction

/-- Only an insertion adds a record. -/
theorem Answers.eq_insert {statement : Statement kind} {reply : statement.Reply}
    (hanswers : Answers records statement reply after) (hbefore : records id = none)
    (hafter : after id ≠ none) : ∃ record, statement = .insert record ∧ record.id = id := by
  cases hanswers with
  | @inserted record hfree =>
      by_cases hsame : id = record.id
      · exact ⟨record, rfl, hsame.symm⟩
      · rw [update_of_ne hsame] at hafter
        contradiction
  | @updated record old affected hold haffected =>
      by_cases hsame : id = record.id
      · rw [hsame, hold] at hbefore
        contradiction
      · rw [update_of_ne hsame] at hafter
        contradiction
  | @deleted other old affected hold haffected =>
      rw [update_apply] at hafter
      split at hafter <;> contradiction
  | found | taken | missed | absent | scanned => contradiction

end Presence

abbrev StatementLog (kind : ResourceKind) :=
  List (Nat × Statement kind)

namespace KeyedTable

variable (table : KeyedTable kind σ) (state : σ)

def after (log : StatementLog kind) : RecordMap kind :=
  table.records (Interleaving.replay table.answer state log)

variable {table state} {log rest : StatementLog kind} {id : String}

/-- A record that is gone has been deleted. -/
theorem exists_delete (hbefore : table.after state log id ≠ none)
    (hafter : table.after state (log ++ rest) id = none) :
    ∃ number, (number, Statement.delete id) ∈ rest := by
  induction rest using List.reverseRecOn with
  | nil =>
      rw [List.append_nil] at hafter
      contradiction
  | append_singleton rest entry ih =>
      by_cases hearlier : table.after state (log ++ rest) id = none
      · obtain ⟨number, hdelete⟩ := ih hearlier
        exact ⟨number, List.mem_append_left _ hdelete⟩
      · unfold after at hafter hearlier
        rw [← List.append_assoc, Interleaving.replay_concat] at hafter
        obtain hanswers | ⟨-, hsame⟩ :=
          table.keyed entry.2 (Interleaving.replay table.answer state (log ++ rest))
        · have hdelete := hanswers.eq_delete hearlier hafter
          exact ⟨entry.1, List.mem_append_right _ (List.mem_singleton.mpr (by rw [← hdelete]))⟩
        · rw [hsame] at hafter
          contradiction

/-- A record that was not there has been inserted. -/
theorem exists_insert (hbefore : table.after state log id = none)
    (hafter : table.after state (log ++ rest) id ≠ none) :
    ∃ number record, (number, Statement.insert record) ∈ rest ∧ record.id = id := by
  induction rest using List.reverseRecOn with
  | nil =>
      rw [List.append_nil] at hafter
      contradiction
  | append_singleton rest entry ih =>
      by_cases hearlier : table.after state (log ++ rest) id = none
      · unfold after at hafter hearlier
        rw [← List.append_assoc, Interleaving.replay_concat] at hafter
        obtain hanswers | ⟨-, hsame⟩ :=
          table.keyed entry.2 (Interleaving.replay table.answer state (log ++ rest))
        · obtain ⟨record, hinsert, hid⟩ := hanswers.eq_insert hearlier hafter
          exact ⟨entry.1, record,
            List.mem_append_right _ (List.mem_singleton.mpr (by rw [← hinsert])), hid⟩
        · rw [hsame] at hafter
          contradiction
      · obtain ⟨number, record, hinsert, hid⟩ := ih hearlier
        exact ⟨number, record, List.mem_append_left _ hinsert, hid⟩

end KeyedTable

end Registrar
