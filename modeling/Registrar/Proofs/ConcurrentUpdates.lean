import Registrar.Proofs.RecordRequests
import Mathlib.Data.List.Induction
import Mathlib.Data.List.Permutation

/-!
# Concurrent updates of one record

An update reads the whole record, patches what it has read and writes every column back. Among
others, its write puts back whatever has been written since its read, also in the columns that its
patch leaves alone. Which patches a record shows in the end can be read off the order of the calls:
all of them exactly if no write falls between the read and the write of another update.
-/

namespace Registrar

def Program.request? {I : Interface} {α : Type} : Program I α → Option I.Call
  | .done _ => none
  | .call request _ => some request

variable {kind : ResourceKind}

/-! ### Calls in the order of their answers -/

abbrev CallLog (kind : ResourceKind) :=
  List (Nat × RepositoryCall kind)

namespace CallLog

def writer? : Nat × RepositoryCall kind → Option Nat
  | (number, .update _) => some number
  | _ => none

def writers (log : CallLog kind) : List Nat :=
  log.filterMap writer?

/-- The updates whose patches the record shows, in their order, and those whose patches each update has read. -/
structure Ledger where
  current : List Nat
  seen : Nat → List Nat

def Ledger.enter (ledger : Ledger) : Nat × RepositoryCall kind → Ledger
  | (number, .update _) => { ledger with current := ledger.seen number ++ [number] }
  | (number, _) => { ledger with seen := Function.update ledger.seen number ledger.current }

def ledger (log : CallLog kind) : Ledger :=
  log.foldl Ledger.enter ⟨[], fun _ => []⟩

def lineage (log : CallLog kind) : List Nat :=
  log.ledger.current

/-- No write falls between the read and the write of an update. -/
def Undisturbed (log : CallLog kind) : Prop :=
  ∀ before between after number id record,
    log = before ++ (number, .find id) :: between ++ (number, .update record) :: after →
      writers between = []

section Ledger

variable {log before between : CallLog kind} {number : Nat} {id : String}

theorem ledger_concat (log : CallLog kind) (entry : Nat × RepositoryCall kind) :
    ledger (log ++ [entry]) = log.ledger.enter entry :=
  List.foldl_concat ..

theorem writers_append (log rest : CallLog kind) :
    writers (log ++ rest) = log.writers ++ writers rest :=
  List.filterMap_append

theorem writers_read (before between : CallLog kind) (number : Nat) (id : String) :
    writers (before ++ (number, .find id) :: between) = before.writers ++ writers between :=
  writers_append ..

theorem writer?_eq_some_iff {entry : Nat × RepositoryCall kind} :
    writer? entry = some number ↔ ∃ record, entry = (number, .update record) := by
  obtain ⟨other, request⟩ := entry
  cases request <;> simp [writer?]

theorem Ledger.enter_of_writer?_eq_none (ledger : Ledger) {entry : Nat × RepositoryCall kind}
    (hentry : writer? entry = none) :
    ledger.enter entry
      = ⟨ledger.current, Function.update ledger.seen entry.1 ledger.current⟩ := by
  obtain ⟨other, request⟩ := entry
  cases request with
  | update record => contradiction
  | find id => rfl
  | insert record => rfl
  | delete id => rfl
  | page query deadline => rfl

theorem Ledger.seen_enter_of_ne (ledger : Ledger) {entry : Nat × RepositoryCall kind}
    (hother : entry.1 ≠ number) : (ledger.enter entry).seen number = ledger.seen number := by
  cases hwriter : writer? entry with
  | none =>
      rw [ledger.enter_of_writer?_eq_none hwriter]
      exact Function.update_of_ne hother.symm ..
  | some writer =>
      obtain ⟨record, rfl⟩ := writer?_eq_some_iff.mp hwriter
      rfl

/-- Until its next call an update knows what the record showed when it read it. -/
theorem seen_ledger (before : CallLog kind) (id : String)
    (hbetween : number ∉ between.map Prod.fst) :
    (ledger (before ++ (number, .find id) :: between)).seen number = before.lineage := by
  induction between using List.reverseRecOn with
  | nil =>
      rw [ledger_concat]
      exact Function.update_self ..
  | append_singleton between entry ih =>
      rw [List.map_append, List.mem_append, not_or] at hbetween
      obtain ⟨hbetween, hentry⟩ := hbetween
      have hother : entry.1 ≠ number := by
        rintro rfl
        exact hentry (List.mem_singleton_self _)
      rw [← List.cons_append, ← List.append_assoc, ledger_concat, Ledger.seen_enter_of_ne _ hother]
      exact ih hbetween

theorem lineage_read (log : CallLog kind) (number : Nat) (id : String) :
    lineage (log ++ [(number, .find id)]) = log.lineage := by
  rw [lineage, ledger_concat]
  rfl

/-- A write puts the patch behind those that its update has read; those written in between are gone. -/
theorem lineage_write (before : CallLog kind) (id : String) (record : Record kind)
    (hbetween : number ∉ between.map Prod.fst) :
    lineage (before ++ (number, .find id) :: between ++ [(number, .update record)])
      = before.lineage ++ [number] := by
  rw [lineage, ledger_concat, ← seen_ledger before id hbetween]
  rfl

theorem lineage_append_of_writers_eq_nil (log : CallLog kind) {rest : CallLog kind}
    (hrest : rest.writers = []) : lineage (log ++ rest) = log.lineage := by
  induction rest using List.reverseRecOn with
  | nil => rw [List.append_nil]
  | append_singleton rest entry ih =>
      rw [writers_append, List.append_eq_nil_iff] at hrest
      obtain ⟨hrest, hentry⟩ := hrest
      have hread : writer? entry = none :=
        List.filterMap_eq_nil_iff.mp hentry entry (List.mem_singleton_self entry)
      rw [← List.append_assoc, lineage, ledger_concat, Ledger.enter_of_writer?_eq_none _ hread]
      exact ih hrest

/-- The record shows patches in the order in which they were written; some may have been lost. -/
theorem ledger_sublist_writers (log : CallLog kind) :
    log.lineage.Sublist log.writers ∧ ∀ number, (log.ledger.seen number).Sublist log.writers := by
  induction log using List.reverseRecOn with
  | nil => exact ⟨List.nil_sublist _, fun number => List.nil_sublist _⟩
  | append_singleton log entry ih =>
      obtain ⟨hlineage, hseen⟩ := ih
      have hgrown : (writers log).Sublist (writers (log ++ [entry])) := by
        rw [writers_append]
        exact List.sublist_append_left ..
      rw [lineage, ledger_concat]
      cases hwriter : writer? entry with
      | some number =>
          obtain ⟨record, rfl⟩ := writer?_eq_some_iff.mp hwriter
          refine ⟨?_, fun other => (hseen other).trans hgrown⟩
          rw [writers_append]
          exact (hseen number).append_right [number]
      | none =>
          rw [Ledger.enter_of_writer?_eq_none _ hwriter]
          refine ⟨hlineage.trans hgrown, fun other => ?_⟩
          dsimp only
          rw [Function.update_apply]
          split
          · exact hlineage.trans hgrown
          · exact (hseen other).trans hgrown

/-- A further call disturbs nothing unless it writes, and then the calls since the read of its update decide. -/
theorem undisturbed_concat_iff {entry : Nat × RepositoryCall kind} :
    Undisturbed (log ++ [entry]) ↔ log.Undisturbed ∧
      ∀ before between number id record, log = before ++ (number, .find id) :: between →
        entry = (number, .update record) → writers between = [] := by
  constructor
  · intro hlog
    refine ⟨?_, ?_⟩
    · rintro before between after number id record rfl
      exact hlog before between (after ++ [entry]) number id record (by simp)
    · rintro before between number id record rfl rfl
      exact hlog before between [] number id record rfl
  · -- The new entry is the write itself, or comes after it.
    rintro ⟨hlog, hlast⟩ before between after number id record hsplit
    rcases List.eq_nil_or_concat after with rfl | ⟨rest, last, rfl⟩
    · obtain ⟨hfront, hentry⟩ := List.append_inj' hsplit rfl
      exact hlast before between number id record hfront (List.singleton_inj.mp hentry)
    · rw [List.concat_eq_append, ← List.cons_append, ← List.append_assoc] at hsplit
      obtain ⟨hfront, -⟩ := List.append_inj' hsplit rfl
      exact hlog before between rest number id record hfront

/-- An update that reads once writes undisturbed if nothing is written after its read. -/
theorem undisturbed_write_iff (record : Record kind) (hbefore : number ∉ before.map Prod.fst)
    (hbetween : number ∉ between.map Prod.fst) :
    Undisturbed (before ++ (number, .find id) :: between ++ [(number, .update record)])
      ↔ Undisturbed (before ++ (number, .find id) :: between) ∧ between.writers = [] := by
  rw [undisturbed_concat_iff]
  refine and_congr_right fun _ => ⟨?_, ?_⟩
  · intro hlast
    exact hlast before between number id record rfl rfl
  · intro hnone before' between' number' id' record' hsplit hentry
    obtain rfl : number = number' := congrArg Prod.fst hentry
    obtain ⟨-, -, rfl⟩ := (List.append_cons_inj_of_notMem
      (fun hread => hbefore (List.mem_map_of_mem hread))
      (fun hread => hbetween (List.mem_map_of_mem hread))).mp hsplit
    exact hnone

end Ledger

/-- Every update reads first and once, and may write once after that. -/
inductive Orderly : CallLog kind → Prop where
  | nil : Orderly []
  | read {log : CallLog kind} {number : Nat} (id : String) (hlog : Orderly log)
      (hnew : number ∉ log.map Prod.fst) : Orderly (log ++ [(number, .find id)])
  | write {before between : CallLog kind} {number : Nat} {id : String} (record : Record kind)
      (hlog : Orderly (before ++ (number, .find id) :: between))
      (hbefore : number ∉ before.map Prod.fst) (hbetween : number ∉ between.map Prod.fst) :
      Orderly (before ++ (number, .find id) :: between ++ [(number, .update record)])

theorem mem_map_fst_of_mem_writers {log : CallLog kind} {number : Nat}
    (hwriter : number ∈ log.writers) : number ∈ log.map Prod.fst := by
  obtain ⟨entry, hentry, hwrites⟩ := List.mem_filterMap.mp hwriter
  obtain ⟨record, rfl⟩ := writer?_eq_some_iff.mp hwrites
  exact List.mem_map_of_mem hentry

theorem notMem_writers_of_read {before between : CallLog kind} {number : Nat} {id : String}
    (hbefore : number ∉ before.map Prod.fst) (hbetween : number ∉ between.map Prod.fst) :
    number ∉ writers (before ++ (number, .find id) :: between) := by
  rw [writers_read, List.mem_append, not_or]
  exact ⟨mt mem_map_fst_of_mem_writers hbefore, mt mem_map_fst_of_mem_writers hbetween⟩

/-- No update writes twice. -/
theorem Orderly.writers_nodup {log : CallLog kind} (hlog : Orderly log) : log.writers.Nodup := by
  induction hlog with
  | nil => exact List.nodup_nil
  | read id hlog hnew ih =>
      rw [writers_read]
      exact (List.append_nil _).symm ▸ ih
  | write record hlog hbefore hbetween ih =>
      rw [writers_append]
      exact List.nodup_append.mpr ⟨ih, List.nodup_singleton _, fun writer hwriter other hother =>
        fun hsame => notMem_writers_of_read hbefore hbetween
          (List.mem_singleton.mp hother ▸ hsame ▸ hwriter)⟩

/-- The record shows all patches that were written exactly if no write was disturbed. -/
theorem Orderly.lineage_eq_writers_iff {log : CallLog kind} (hlog : Orderly log) :
    log.lineage = log.writers ↔ log.Undisturbed := by
  induction hlog with
  | nil =>
      refine iff_of_true rfl fun before between after number id record hsplit => ?_
      simp at hsplit
  | @read log number id hlog hnew ih =>
      have hwriters : writers (log ++ [(number, .find id)]) = log.writers :=
        (writers_read log [] number id).trans (List.append_nil _)
      rw [lineage_read, hwriters, ih, undisturbed_concat_iff, and_iff_left]
      rintro before between other id' record - hentry
      cases hentry
  | @write before between number id record hlog hbefore hbetween ih =>
      have hkept : between.writers = [] →
          lineage (before ++ (number, .find id) :: between) = before.lineage := fun hnone =>
        lineage_append_of_writers_eq_nil before hnone
      rw [undisturbed_write_iff record hbefore hbetween, ← ih,
        lineage_write before id record hbetween, writers_append, writers_read]
      change before.lineage ++ [number] = before.writers ++ between.writers ++ [number] ↔ _
      rw [List.append_left_inj]
      constructor
      · -- The lineage has no more members than the writers before the read.
        intro hall
        have hlength := (ledger_sublist_writers before).1.length_le
        rw [hall, List.length_append] at hlength
        have hnone : between.writers = [] := List.eq_nil_of_length_eq_zero (by omega)
        refine ⟨?_, hnone⟩
        rw [hkept hnone, hall]
      · rintro ⟨hlineage, hnone⟩
        rw [hkept hnone] at hlineage
        exact hlineage

end CallLog

open CallLog

/-! ### Updates call by call -/

structure Updates (kind : ResourceKind) where
  actions : List (Registry.Action kind (Record kind))
  rows : List (Record kind)
  log : CallLog kind

namespace Updates

def start (id : String) (patches : List Patch) (rows : List (Record kind)) : Updates kind :=
  ⟨patches.map (Registry.update id), rows, []⟩

def step (updates : Updates kind) (number : Nat) : Updates kind :=
  match updates.actions[number]? with
  | none => updates
  | some action =>
    let (rest, rows) := action.advance sqliteStore updates.rows
    ⟨updates.actions.set number rest, rows,
      updates.log ++ (action.request?.map (number, ·)).toList⟩

def run (updates : Updates kind) (schedule : List Nat) : Updates kind :=
  schedule.foldl step updates

theorem step_of_action {updates : Updates kind} {number : Nat}
    {action : Registry.Action kind (Record kind)}
    (haction : updates.actions[number]? = some action) :
    updates.step number
      = ⟨updates.actions.set number (action.advance sqliteStore updates.rows).1,
          (action.advance sqliteStore updates.rows).2,
          updates.log ++ (action.request?.map (number, ·)).toList⟩ := by
  unfold step
  rw [haction]

end Updates

def patched (patches : List Patch) (record : Record kind) (numbers : List Nat) : Record kind :=
  numbers.foldl (fun record number => patches[number]?.elim record record.apply) record

theorem patched_concat {patches : List Patch} {number : Nat} {patch : Patch}
    (hpatch : patches[number]? = some patch) (record : Record kind) (numbers : List Nat) :
    patched patches record (numbers ++ [number])
      = (patched patches record numbers).apply patch := by
  unfold patched
  rw [List.foldl_concat, hpatch]
  rfl

theorem id_patched (patches : List Patch) (record : Record kind) (numbers : List Nat) :
    (patched patches record numbers).id = record.id := by
  induction numbers using List.reverseRecOn with
  | nil => rfl
  | append_singleton numbers number ih =>
      rw [← ih, patched, List.foldl_concat]
      cases patches[number]? <;> rfl

section Advance

variable {rows : List (Record kind)} {id : String}

/-- The record that an update will write is fixed when it reads. -/
theorem advance_update {record : Record kind} (hrecord : recordAt rows id = some record)
    (patch : Patch) :
    (Registry.update id patch).advance sqliteStore rows
      = (match (record.apply patch).validate with
        | .error fault => .done (.error fault)
        | .ok () => Registry.writeBack id (record.apply patch), rows) := by
  unfold Registry.update Registry.get
  dsimp only [Program.bind, Program.advance]
  rw [sqliteStore_find, hrecord]
  rfl

theorem advance_writeBack {record old : Record kind} (hold : recordAt rows record.id = some old) :
    (Registry.writeBack id record).advance sqliteStore rows
      = (.done (.ok record), rows.map (replaceBy record)) := by
  unfold Registry.writeBack
  dsimp only [Program.advance]
  rw [sqliteStore_update, hold]
  rfl

end Advance

/-! ### What the calls leave of a record -/

section Tracked

variable {patches : List Patch} {initial : Record kind} {rows : List (Record kind)}
  {updates : Updates kind}

/-- How far an update has come: it has not begun, has read the record as some earlier call left it, has failed, or has written. -/
inductive Stage (patches : List Patch) (initial : Record kind) (log : CallLog kind)
    (number : Nat) : Option Patch → Option (Registry.Action kind (Record kind)) → Prop where
  | missing (hlog : number ∉ log.map Prod.fst) : Stage patches initial log number none none
  | waiting {patch : Patch} (hlog : number ∉ log.map Prod.fst) :
      Stage patches initial log number (some patch) (some (Registry.update initial.id patch))
  | holding {patch : Patch} {before between : CallLog kind}
      (hlog : log = before ++ (number, .find initial.id) :: between)
      (hbefore : number ∉ before.map Prod.fst) (hbetween : number ∉ between.map Prod.fst) :
      Stage patches initial log number (some patch)
        (some (Registry.writeBack initial.id
          ((patched patches initial before.lineage).apply patch)))
  | failed {patch : Patch} {fault : RecordError} (hwriters : number ∉ log.writers) :
      Stage patches initial log number (some patch) (some (.done (.error fault)))
  | written {patch : Patch} {record : Record kind} (hwriters : number ∈ log.writers) :
      Stage patches initial log number (some patch) (some (.done (.ok record)))

theorem Stage.concat {log : CallLog kind} {number other : Nat} {patch? : Option Patch}
    {action? : Option (Registry.Action kind (Record kind))}
    (hstage : Stage patches initial log number patch? action?) (hother : other ≠ number)
    (request : RepositoryCall kind) :
    Stage patches initial (log ++ [(other, request)]) number patch? action? := by
  have hentry : number ∉ CallLog.writers [(other, request)] := fun hwriter =>
    hother (List.mem_singleton.mp (mem_map_fst_of_mem_writers hwriter)).symm
  cases hstage with
  | missing hlog => exact .missing (by simp [hlog, hother.symm])
  | waiting hlog => exact .waiting (by simp [hlog, hother.symm])
  | @holding patch before between hlog hbefore hbetween =>
      have hsplit : log ++ [(other, request)]
          = before ++ (number, .find initial.id) :: (between ++ [(other, request)]) := by
        rw [hlog, List.append_assoc, List.cons_append]
      exact .holding hsplit hbefore (by simp [hbetween, hother.symm])
  | failed hwriters =>
      refine .failed ?_
      rw [writers_append, List.mem_append, not_or]
      exact ⟨hwriters, hentry⟩
  | written hwriters =>
      refine .written ?_
      rw [writers_append, List.mem_append]
      exact Or.inl hwriters

structure Tracked (patches : List Patch) (initial : Record kind) (rows : List (Record kind))
    (updates : Updates kind) : Prop where
  orderly : Orderly updates.log
  stored : recordAt updates.rows initial.id
    = some (patched patches initial updates.log.lineage)
  others : updates.rows.filter (·.id ≠ initial.id) = rows.filter (·.id ≠ initial.id)
  stages : ∀ number,
    Stage patches initial updates.log number patches[number]? updates.actions[number]?

theorem tracked_start (patches : List Patch) (hinitial : recordAt rows initial.id = some initial) :
    Tracked patches initial rows (Updates.start initial.id patches rows) where
  orderly := .nil
  stored := hinitial
  others := rfl
  stages := by
    intro number
    unfold Updates.start
    rw [List.getElem?_map]
    cases patches[number]? with
    | none => exact .missing List.not_mem_nil
    | some patch => exact .waiting List.not_mem_nil

/-- A call of one update leaves all others where they are. -/
theorem Tracked.concat (htracked : Tracked patches initial rows updates) {number : Nat}
    {action rest : Registry.Action kind (Record kind)} {request : RepositoryCall kind}
    {after : List (Record kind)} (haction : updates.actions[number]? = some action)
    (horderly : Orderly (updates.log ++ [(number, request)]))
    (hstored : recordAt after initial.id
      = some (patched patches initial (lineage (updates.log ++ [(number, request)]))))
    (hothers : after.filter (·.id ≠ initial.id) = updates.rows.filter (·.id ≠ initial.id))
    (hstage : Stage patches initial (updates.log ++ [(number, request)]) number patches[number]?
      (some rest)) :
    Tracked patches initial rows
      ⟨updates.actions.set number rest, after, updates.log ++ [(number, request)]⟩ where
  orderly := horderly
  stored := hstored
  others := hothers.trans htracked.others
  stages := by
    intro other
    obtain ⟨hlength, -⟩ := List.getElem?_eq_some_iff.mp haction
    by_cases hsame : number = other
    · subst hsame
      rw [List.getElem?_set_self hlength]
      exact hstage
    · rw [List.getElem?_set_ne hsame]
      exact (htracked.stages other).concat hsame request

/-- The write of an update that holds a record makes the table show what the ledger says. -/
theorem Tracked.step_holding (htracked : Tracked patches initial rows updates) {number : Nat}
    {patch : Patch} {before between : CallLog kind} (hpatch : patches[number]? = some patch)
    (haction : updates.actions[number]? = some (Registry.writeBack initial.id
      ((patched patches initial before.lineage).apply patch)))
    (hlog : updates.log = before ++ (number, .find initial.id) :: between)
    (hbefore : number ∉ before.map Prod.fst) (hbetween : number ∉ between.map Prod.fst) :
    Tracked patches initial rows (updates.step number) := by
  have hchanged := patched_concat hpatch initial before.lineage
  rw [← hchanged] at haction
  have hid := id_patched patches initial (before.lineage ++ [number])
  have hold : recordAt updates.rows (patched patches initial (before.lineage ++ [number])).id
      = some (patched patches initial updates.log.lineage) := by
    rw [hid]
    exact htracked.stored
  have hlineage : lineage (updates.log ++ [(number, .update
      (patched patches initial (before.lineage ++ [number])))]) = before.lineage ++ [number] := by
    rw [hlog]
    exact lineage_write before initial.id _ hbetween
  rw [Updates.step_of_action haction, advance_writeBack hold]
  refine htracked.concat haction ?_ ?_ ?_ ?_
  · have horderly := htracked.orderly
    rw [hlog] at horderly ⊢
    exact horderly.write _ hbefore hbetween
  · rw [hlineage, recordAt_map_replaceBy _ hold, hid]
    exact Function.update_self ..
  · have hothers := filter_map_replaceBy
      (patched patches initial (before.lineage ++ [number])) updates.rows
    rw [hid] at hothers
    exact hothers
  · rw [hpatch]
    refine .written ?_
    rw [writers_append]
    exact List.mem_append_right _ (List.mem_singleton_self number)

theorem Tracked.step_waiting (htracked : Tracked patches initial rows updates) {number : Nat}
    {patch : Patch} (hpatch : patches[number]? = some patch)
    (haction : updates.actions[number]? = some (Registry.update initial.id patch))
    (hlog : number ∉ updates.log.map Prod.fst) :
    Tracked patches initial rows (updates.step number) := by
  rw [Updates.step_of_action haction, advance_update htracked.stored]
  refine htracked.concat haction (htracked.orderly.read initial.id hlog) ?_ rfl ?_
  · rw [lineage_read]
    exact htracked.stored
  · rw [hpatch]
    cases ((patched patches initial updates.log.lineage).apply patch).validate with
    | error fault => exact .failed (notMem_writers_of_read hlog List.not_mem_nil)
    | ok done => exact .holding rfl hlog List.not_mem_nil

theorem Tracked.step_done (htracked : Tracked patches initial rows updates) {number : Nat}
    {outcome : Except RecordError (Record kind)}
    (haction : updates.actions[number]? = some (.done outcome)) :
    Tracked patches initial rows (updates.step number) := by
  obtain ⟨hlength, hget⟩ := List.getElem?_eq_some_iff.mp haction
  have hset : updates.actions.set number (.done outcome) = updates.actions := by
    rw [← hget, List.set_getElem_self]
  rw [Updates.step_of_action haction]
  dsimp only [Program.advance, Program.request?]
  rw [hset, Option.map_none, Option.toList_none, List.append_nil]
  exact htracked

theorem Tracked.step (htracked : Tracked patches initial rows updates) (number : Nat) :
    Tracked patches initial rows (updates.step number) := by
  have hstage := htracked.stages number
  generalize hpatch : patches[number]? = patch? at hstage
  generalize haction : updates.actions[number]? = action? at hstage
  cases hstage with
  | missing hlog =>
      unfold Updates.step
      rw [haction]
      exact htracked
  | waiting hlog => exact htracked.step_waiting hpatch haction hlog
  | holding hlog hbefore hbetween =>
      exact htracked.step_holding hpatch haction hlog hbefore hbetween
  | failed hwriters => exact htracked.step_done haction
  | written hwriters => exact htracked.step_done haction

theorem Tracked.run (htracked : Tracked patches initial rows updates) (schedule : List Nat) :
    Tracked patches initial rows (updates.run schedule) := by
  induction schedule generalizing updates with
  | nil => exact htracked
  | cons number schedule ih => exact ih (htracked.step number)

/-- The updates that have written are those that have succeeded. -/
theorem Tracked.mem_writers_iff (htracked : Tracked patches initial rows updates) (number : Nat) :
    number ∈ updates.log.writers ↔
      ∃ record, updates.actions[number]? = some (.done (.ok record)) := by
  have hstage := htracked.stages number
  generalize patches[number]? = patch? at hstage
  generalize haction : updates.actions[number]? = action? at hstage ⊢
  cases hstage with
  | missing hlog => exact iff_of_false (mt mem_map_fst_of_mem_writers hlog) (by simp)
  | waiting hlog =>
      exact iff_of_false (mt mem_map_fst_of_mem_writers hlog)
        (by simp [Registry.update, Registry.get, Program.bind])
  | holding hlog hbefore hbetween =>
      refine iff_of_false ?_ (by simp [Registry.writeBack])
      rw [hlog]
      exact notMem_writers_of_read hbefore hbetween
  | failed hwriters => exact iff_of_false hwriters (by simp)
  | written hwriters => exact iff_of_true hwriters ⟨_, rfl⟩

structure Updates.Accounted (patches : List Patch) (initial : Record kind)
    (rows : List (Record kind)) (updates : Updates kind) : Prop where
  /-- The record shows the patches of its lineage. -/
  record : recordAt updates.rows initial.id
    = some (patched patches initial updates.log.lineage)
  /-- These are some of the patches that were written, in the order of the writes. -/
  lineage_sublist : updates.log.lineage.Sublist updates.log.writers
  /-- Exactly the updates that succeed have written, each of them once. -/
  writers_nodup : updates.log.writers.Nodup
  mem_writers : ∀ number, number ∈ updates.log.writers ↔
    ∃ record, updates.actions[number]? = some (.done (.ok record))
  /-- No patch is lost exactly if no write falls between the read and the write of another update. -/
  undisturbed : updates.log.lineage = updates.log.writers ↔ updates.log.Undisturbed
  others : updates.rows.filter (·.id ≠ initial.id) = rows.filter (·.id ≠ initial.id)

/-- **Concurrent updates.** Whatever the order of their calls, what updates leave is accounted for by the order. -/
theorem updates_accounted {id : String} (hinitial : recordAt rows id = some initial)
    (patches : List Patch) (schedule : List Nat) :
    ((Updates.start id patches rows).run schedule).Accounted patches initial rows := by
  obtain rfl := id_of_recordAt hinitial
  have htracked := (tracked_start patches hinitial).run schedule
  exact
    { record := htracked.stored
      lineage_sublist := (ledger_sublist_writers _).1
      writers_nodup := htracked.orderly.writers_nodup
      mem_writers := htracked.mem_writers_iff
      undisturbed := htracked.orderly.lineage_eq_writers_iff
      others := htracked.others }

end Tracked

/-- A role before one update sets its description and another its name. -/
def roleBefore : Record .role :=
  .create .role "r1" ⟨none, some "old", some "d0"⟩ ⟨0, 0⟩

def rolePatches : List Patch :=
  [⟨none, some "new"⟩, ⟨some "renamed", none⟩]

/-- Both updates read the role, then the name is written, then the description: both succeed, and the new name is lost. -/
theorem renaming_lost :
    let final := (Updates.start "r1" rolePatches [roleBefore]).run [0, 1, 1, 0]
    recordAt [roleBefore] "r1" = some roleBefore
      ∧ final.Accounted rolePatches roleBefore [roleBefore]
      ∧ (∀ number < 2, ∃ record, final.actions[number]? = some (.done (.ok record)))
      ∧ recordAt final.rows "r1" = some (.create .role "r1" ⟨none, some "old", some "new"⟩ ⟨0, 0⟩)
      ∧ ∀ order : List Nat, order.Perm [0, 1] →
        recordAt final.rows "r1" ≠ some (patched rolePatches roleBefore order) := by
  intro final
  have hstored : recordAt [roleBefore] "r1" = some roleBefore := by decide
  refine ⟨hstored, updates_accounted hstored rolePatches [0, 1, 1, 0], ?_, by decide, ?_⟩
  · intro number hnumber
    match number with
    | 0 => exact ⟨_, rfl⟩
    | 1 => exact ⟨_, rfl⟩
  · intro order horder
    rcases List.perm_pair.mp horder with rfl | rfl
    · decide
    · decide

end Registrar
