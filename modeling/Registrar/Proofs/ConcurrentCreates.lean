import Registrar.Proofs.KeyedTable

/-!
# Concurrent creations of one identifier

A creation looks whether its identifier is taken and inserts its record if not. Several creations may
find the identifier free, so that it is the insertion that decides: the first one wins, and to all
others the store tells that the key is taken, which they report as if they had seen it at once.
-/

namespace Registrar

open Function

variable {kind : ResourceKind} {σ : Type} {id : String}

def KeyedTable.store (table : KeyedTable kind σ) (dialect : Sql.Dialect) :
    (Repository kind).Handler σ :=
  fun request => (RecordTable.carryOut dialect request).run table.answer

section Store

variable {table : KeyedTable kind σ}

theorem KeyedTable.Reliable.store_find (hreliable : table.Reliable) (dialect : Sql.Dialect)
    (id : String) (state : σ) :
    (table.store dialect (.find id) state).1 = .ok (table.records state id) ∧
      table.records (table.store dialect (.find id) state).2 = table.records state := by
  obtain ⟨hreply, hrecords⟩ := (hreliable (.find id) state).of_find
  unfold store RecordTable.carryOut RecordTable.find
  dsimp only [Program.run]
  rw [hreply]
  exact ⟨rfl, hrecords⟩

/-- An insertion succeeds exactly if the key is free; otherwise it is told that the key is taken. -/
theorem KeyedTable.Reliable.store_insert (hreliable : table.Reliable) (dialect : Sql.Dialect)
    (record : Record kind) (state : σ) :
    (table.records state record.id = none
        ∧ (table.store dialect (.insert record) state).1 = .ok ()
        ∧ table.records (table.store dialect (.insert record) state).2
          = update (table.records state) record.id (some record))
      ∨ (table.records state record.id ≠ none
        ∧ (table.store dialect (.insert record) state).1 = .error .duplicateKey
        ∧ table.records (table.store dialect (.insert record) state).2 = table.records state) := by
  unfold store RecordTable.carryOut RecordTable.insert
  dsimp only [Program.run]
  obtain ⟨hfree, hreply, hrecords⟩ | ⟨reason, htaken, hreply, hrecords⟩ :=
    (hreliable (.insert record) state).of_insert
  · left
    rw [hreply]
    exact ⟨hfree, rfl, hrecords⟩
  · right
    rw [hreply]
    exact ⟨htaken, rfl, hrecords⟩

end Store

/-! ### Creations -/

/-- A creation whose identifier, once trimmed, is the given one, and the valid record that it is to store. -/
structure Creation (kind : ResourceKind) (id : String) where
  draft : Draft
  generated : String
  now : Time.Instant
  record : Record kind
  chosenId_eq : Registry.chosenId draft generated = id
  newRecord_eq : Registry.newRecord kind draft generated now = .ok record

namespace Creation

def action (creation : Creation kind id) : Registry.Action kind (Record kind) :=
  Registry.create creation.draft creation.generated creation.now

theorem id_record (creation : Creation kind id) : creation.record.id = id := by
  obtain ⟨hrecord, -, -⟩ := newRecord_eq_ok_iff.mp creation.newRecord_eq
  rw [hrecord]
  exact creation.chosenId_eq

/-- A valid creation looks for a record with its identifier before it inserts its own. -/
theorem action_eq (creation : Creation kind id) :
    creation.action = .call (.find creation.record.id) fun
      | .error fault => .done (.error (Registry.storeError fault))
      | .ok (some _) => .done (.error (.alreadyExists kind creation.record.id))
      | .ok none => Registry.insertNew creation.record := by
  unfold action Registry.create
  rw [creation.newRecord_eq]
  refine congrArg (Program.call _) (funext fun reply => ?_)
  match reply with
  | .error fault => rfl
  | .ok (some old) => rfl
  | .ok none => rfl

theorem action_within (creation : Creation kind id) : creation.action.Within 2 := by
  rw [action_eq]
  refine .call fun reply => ?_
  match reply with
  | .error fault => exact .done _
  | .ok (some old) => exact .done _
  | .ok none =>
      refine .call fun reply => ?_
      match reply with
      | .error .duplicateKey => exact .done _
      | .error (.failure causes) => exact .done _
      | .ok () => exact .done _

end Creation

/-! ### Who wins -/

section Contest

variable {table : KeyedTable kind σ} {dialect : Sql.Dialect} {creations : List (Creation kind id)}
  {initial : RecordMap kind} {winner? : Option Nat}
  {current : Interleaving (Repository kind) (Except RecordError (Record kind)) σ}

/-- How far a creation has come, given who has won so far: it has not begun, has found the identifier free, was refused, or has won. -/
inductive CreationStage (initial : RecordMap kind) (winner? : Option Nat) (number : Nat)
    (creation : Creation kind id) : Registry.Action kind (Record kind) → Prop where
  | waiting (hlost : winner? ≠ some number) :
      CreationStage initial winner? number creation creation.action
  | inserting (hlost : winner? ≠ some number) (hfree : initial id = none) :
      CreationStage initial winner? number creation (Registry.insertNew creation.record)
  | refused (hlost : winner? ≠ some number) (htaken : initial id ≠ none ∨ winner? ≠ none) :
      CreationStage initial winner? number creation (.done (.error (.alreadyExists kind id)))
  | won (hwon : winner? = some number) :
      CreationStage initial winner? number creation (.done (.ok creation.record))

def recordsOf (creations : List (Creation kind id)) (initial : RecordMap kind) :
    Option Nat → RecordMap kind
  | none => initial
  | some winner => update initial id (creations[winner]?.map Creation.record)

/-- Creations under way: only if the identifier was free can one of them have won. -/
structure Contest (table : KeyedTable kind σ) (creations : List (Creation kind id))
    (initial : RecordMap kind)
    (current : Interleaving (Repository kind) (Except RecordError (Record kind)) σ)
    (winner? : Option Nat) : Prop where
  records : table.records current.state = recordsOf creations initial winner?
  valid : ∀ winner, winner? = some winner → winner < creations.length ∧ initial id = none
  length_eq : current.programs.length = creations.length
  stages : ∀ number creation, creations[number]? = some creation → ∃ program,
    current.programs[number]? = some program ∧
      CreationStage initial winner? number creation program

theorem contest_start (creations : List (Creation kind id)) (state : σ) :
    Contest table creations (table.records state)
      (.start (creations.map Creation.action) state) none where
  records := rfl
  valid := fun _ hwinner => absurd hwinner.symm (Option.some_ne_none _)
  length_eq := List.length_map _
  stages := by
    intro number creation hcreation
    refine ⟨creation.action, ?_, .waiting (Option.some_ne_none _).symm⟩
    unfold Interleaving.start
    rw [List.getElem?_map, hcreation, Option.map_some]

/-- A creation stays where it is when another one wins. -/
theorem CreationStage.mono {number : Nat} {creation : Creation kind id}
    {program : Registry.Action kind (Record kind)} {winner : Nat}
    (hstage : CreationStage initial none number creation program) (hother : winner ≠ number) :
    CreationStage initial (some winner) number creation program := by
  have hlost : some winner ≠ some number := fun hsame => hother (Option.some.inj hsame)
  cases hstage with
  | waiting => exact .waiting hlost
  | inserting _ hfree => exact .inserting hlost hfree
  | refused => exact .refused hlost (Or.inr (Option.some_ne_none winner))
  | won hwon => contradiction

theorem Contest.recordsOf_eq_none_iff (hcontest : Contest table creations initial current winner?) :
    recordsOf creations initial winner? id = none ↔ initial id = none ∧ winner? = none := by
  cases hwinner : winner? with
  | none => exact (and_iff_left rfl).symm
  | some winner =>
      obtain ⟨hlength, -⟩ := hcontest.valid winner hwinner
      dsimp only [recordsOf]
      rw [update_self, Option.map_eq_none_iff, List.getElem?_eq_none_iff]
      exact iff_of_false (Nat.not_le.mpr hlength) fun hnone => Option.some_ne_none _ hnone.2

/-- The answer to a call of one creation leaves all others where they are. -/
theorem Contest.answered (hcontest : Contest table creations initial current winner?)
    {number : Nat} {creation : Creation kind id} (hcreation : creations[number]? = some creation)
    {request : RepositoryCall kind}
    {next : request.Reply → Registry.Action kind (Record kind)}
    (hprogram : current.programs[number]? = some (.call (I := Repository kind) request next))
    {after? : Option Nat} (hafter : after? = winner? ∨ winner? = none ∧ after? = some number)
    (hvalid : ∀ winner, after? = some winner → winner < creations.length ∧ initial id = none)
    (hrecords : table.records (table.store dialect request current.state).2
      = recordsOf creations initial after?)
    (hstage : CreationStage initial after? number creation
      (next (table.store dialect request current.state).1)) :
    Contest table creations initial (current.step (table.store dialect) number) after? where
  records := by
    rw [Interleaving.step_of_call hprogram]
    exact hrecords
  valid := hvalid
  length_eq := by
    rw [Interleaving.step_of_call hprogram]
    exact (List.length_set ..).trans hcontest.length_eq
  stages := by
    intro other creation' hcreation'
    by_cases hsame : number = other
    · subst hsame
      obtain rfl : creation = creation' := Option.some.inj (hcreation.symm.trans hcreation')
      exact ⟨_, Interleaving.getElem?_step_self hprogram, hstage⟩
    · obtain ⟨program, hother, hotherStage⟩ := hcontest.stages other creation' hcreation'
      refine ⟨program, (Interleaving.getElem?_step_of_ne hsame).trans hother, ?_⟩
      rcases hafter with rfl | ⟨rfl, rfl⟩
      · exact hotherStage
      · exact hotherStage.mono hsame

theorem Contest.step_waiting (hreliable : table.Reliable)
    (hcontest : Contest table creations initial current winner?) {number : Nat}
    {creation : Creation kind id} (hcreation : creations[number]? = some creation)
    (hprogram : current.programs[number]? = some creation.action)
    (hlost : winner? ≠ some number) :
    Contest table creations initial (current.step (table.store dialect) number) winner? := by
  rw [creation.action_eq] at hprogram
  obtain ⟨hreply, hrecords⟩ :=
    hreliable.store_find dialect creation.record.id current.state
  refine hcontest.answered hcreation hprogram (Or.inl rfl) hcontest.valid
    (hrecords.trans hcontest.records) ?_
  have hfree := hcontest.recordsOf_eq_none_iff
  rw [hreply, hcontest.records, creation.id_record]
  cases hfound : recordsOf creations initial winner? id with
  | none => exact .inserting hlost (hfree.mp hfound).1
  | some old =>
      rw [hfound] at hfree
      refine .refused hlost ?_
      rw [← not_and_or, ← hfree]
      exact Option.some_ne_none old

/-- Whoever inserts first wins, and whoever inserts later finds the key taken. -/
theorem Contest.step_inserting (hreliable : table.Reliable)
    (hcontest : Contest table creations initial current winner?) {number : Nat}
    {creation : Creation kind id} (hcreation : creations[number]? = some creation)
    (hprogram : current.programs[number]? = some (Registry.insertNew creation.record))
    (hlost : winner? ≠ some number) (hinitial : initial id = none) :
    ∃ after?, Contest table creations initial (current.step (table.store dialect) number) after? := by
  have hfree := hcontest.recordsOf_eq_none_iff
  rw [← hcontest.records, ← creation.id_record] at hfree
  obtain ⟨hnone, hreply, hrecords⟩ | ⟨htaken, hreply, hrecords⟩ :=
    hreliable.store_insert dialect creation.record current.state
  · -- The first creation that inserts wins.
    obtain ⟨-, rfl⟩ := hfree.mp hnone
    refine ⟨some number, hcontest.answered hcreation hprogram (Or.inr ⟨rfl, rfl⟩) ?_ ?_ ?_⟩
    · intro winner hwinner
      obtain rfl := Option.some.inj hwinner
      exact ⟨(List.getElem?_eq_some_iff.mp hcreation).1, hinitial⟩
    · rw [hrecords, hcontest.records, recordsOf, recordsOf, hcreation, creation.id_record]
      rfl
    · rw [hreply]
      exact .won rfl
  · refine ⟨winner?, hcontest.answered hcreation hprogram (Or.inl rfl) hcontest.valid
      (hrecords.trans hcontest.records) ?_⟩
    rw [hreply]
    have hsome : winner? ≠ none := by
      intro hnone
      rw [creation.id_record] at hfree htaken
      exact htaken (hfree.mpr ⟨hinitial, hnone⟩)
    have hrefused : CreationStage initial winner? number creation
        (.done (.error (.alreadyExists kind id))) := .refused hlost (Or.inr hsome)
    dsimp only
    rw [creation.id_record]
    exact hrefused

/-- One step lemma for whichever creation makes its next call, or for a turn of none. -/
theorem Contest.step (hreliable : table.Reliable)
    (hcontest : Contest table creations initial current winner?) (turn : Nat) :
    ∃ after?, Contest table creations initial (current.step (table.store dialect) turn) after? := by
  cases hcreation : creations[turn]? with
  | none =>
      have hnone : current.programs[turn]? = none := by
        rw [List.getElem?_eq_none_iff, hcontest.length_eq]
        exact List.getElem?_eq_none_iff.mp hcreation
      refine ⟨winner?, ?_⟩
      unfold Interleaving.step
      rw [hnone]
      exact hcontest
  | some creation =>
      obtain ⟨program, hprogram, hstage⟩ := hcontest.stages turn creation hcreation
      cases hstage with
      | waiting hlost =>
          exact ⟨winner?, hcontest.step_waiting hreliable hcreation hprogram hlost⟩
      | inserting hlost hfree =>
          exact hcontest.step_inserting hreliable hcreation hprogram hlost hfree
      | refused hlost htaken =>
          rw [Interleaving.step_of_done _ hprogram]
          exact ⟨winner?, hcontest⟩
      | won hwon =>
          rw [Interleaving.step_of_done _ hprogram]
          exact ⟨winner?, hcontest⟩

theorem exists_contest (hreliable : table.Reliable) (dialect : Sql.Dialect)
    (creations : List (Creation kind id)) (state : σ) (schedule : List Nat) :
    ∃ winner?, Contest table creations (table.records state)
      ((Interleaving.start (creations.map Creation.action) state).run (table.store dialect)
        schedule) winner? := by
  refine Interleaving.run_induction
    (motive := fun current => ∃ winner?, Contest table creations (table.records state) current winner?)
    ⟨none, contest_start creations state⟩ ?_ schedule
  rintro current number ⟨winner?, hcontest⟩
  exact hcontest.step hreliable number

/-- A creation that has returned has won or was refused. -/
theorem Contest.program_of_returned (hcontest : Contest table creations initial current winner?)
    {number : Nat} {creation : Creation kind id} (hcreation : creations[number]? = some creation)
    (hreturned : current.Returned number) :
    (winner? = some number ∧ current.programs[number]? = some (.done (.ok creation.record)))
      ∨ (winner? ≠ some number ∧ (initial id ≠ none ∨ winner? ≠ none)
        ∧ current.programs[number]? = some (.done (.error (.alreadyExists kind id)))) := by
  obtain ⟨program, hprogram, hstage⟩ := hcontest.stages number creation hcreation
  obtain ⟨result, hresult⟩ := hreturned
  cases hstage with
  | waiting hlost =>
      rw [creation.action_eq, hresult] at hprogram
      cases Option.some.inj hprogram
  | inserting hlost hfree =>
      rw [hresult] at hprogram
      cases Option.some.inj hprogram
  | refused hlost htaken => exact Or.inr ⟨hlost, htaken, hprogram⟩
  | won hwon => exact Or.inl ⟨hwon, hprogram⟩

structure Decided (table : KeyedTable kind σ) (creations : List (Creation kind id)) (state : σ)
    (final : Interleaving (Repository kind) (Except RecordError (Record kind)) σ) : Prop where
  /-- If the identifier was taken, all are refused, and the records are what they were. -/
  taken : table.records state id ≠ none →
    (∀ number < creations.length,
      final.programs[number]? = some (.done (.error (.alreadyExists kind id))))
    ∧ table.records final.state = table.records state
  /-- If it was free, one of them wins, and its record is what has been added. -/
  free : table.records state id = none → creations ≠ [] → ∃ winner creation,
    creations[winner]? = some creation
    ∧ final.programs[winner]? = some (.done (.ok creation.record))
    ∧ (∀ number < creations.length, number ≠ winner →
      final.programs[number]? = some (.done (.error (.alreadyExists kind id))))
    ∧ table.records final.state = update (table.records state) id (some creation.record)

/-- Once all have returned, the invariant says how each has ended. -/
theorem Contest.decided {state : σ}
    (hcontest : Contest table creations (table.records state) current winner?)
    (hreturned : ∀ number < creations.length, current.Returned number) :
    Decided table creations state current where
  taken := by
    intro htaken
    have hnone : winner? = none := by
      rw [Option.eq_none_iff_forall_not_mem]
      intro winner hwinner
      exact htaken (hcontest.valid winner hwinner).2
    subst hnone
    refine ⟨fun number hnumber => ?_, hcontest.records⟩
    obtain ⟨hwon, -⟩ | ⟨-, -, hprogram⟩ := hcontest.program_of_returned
      (List.getElem?_eq_getElem hnumber) (hreturned number hnumber)
    · contradiction
    · exact hprogram
  free := by
    intro hfree hcreations
    have hfirst : 0 < creations.length := List.length_pos_iff.mpr hcreations
    cases hwinner : winner? with
    | none =>
        -- Nobody is refused a free identifier before somebody has won it.
        obtain ⟨hwon, -⟩ | ⟨-, htaken, -⟩ := hcontest.program_of_returned
          (List.getElem?_eq_getElem hfirst) (hreturned 0 hfirst)
        · rw [hwinner] at hwon
          contradiction
        · exact (htaken.elim (· hfree) (· hwinner)).elim
    | some winner =>
        obtain ⟨hlength, -⟩ := hcontest.valid winner hwinner
        have hcreation := List.getElem?_eq_getElem hlength
        refine ⟨winner, creations[winner], hcreation, ?_, fun number hnumber hother => ?_, ?_⟩
        · obtain ⟨-, hprogram⟩ | ⟨hlost, -⟩ :=
            hcontest.program_of_returned hcreation (hreturned winner hlength)
          · exact hprogram
          · contradiction
        · obtain ⟨hwon, -⟩ | ⟨-, -, hprogram⟩ := hcontest.program_of_returned
            (List.getElem?_eq_getElem hnumber) (hreturned number hnumber)
          · rw [hwinner] at hwon
            exact absurd (Option.some.inj hwon).symm hother
          · exact hprogram
        · rw [hcontest.records, hwinner, recordsOf, hcreation]
          rfl

/-- **Concurrent creations.** Each creation has returned after two of its calls, whatever the others do. Once all have, one of them has won if the identifier was free and none if it was taken; the others are told that it exists, and the winner's record is all that has changed. -/
theorem creations_decided (hreliable : table.Reliable) (dialect : Sql.Dialect)
    (creations : List (Creation kind id)) (state : σ) (schedule : List Nat) :
    let final := (Interleaving.start (creations.map Creation.action) state).run
      (table.store dialect) schedule
    (∀ number < creations.length, 2 ≤ schedule.count number → final.Returned number)
    ∧ ((∀ number < creations.length, final.Returned number) →
      Decided table creations state final) := by
  refine ⟨fun number hnumber hturns => ?_, fun hreturned => ?_⟩
  · have hprogram : (creations.map Creation.action)[number]? = some creations[number].action := by
      rw [List.getElem?_map, List.getElem?_eq_getElem hnumber, Option.map_some]
    exact Interleaving.returned_of_within hprogram creations[number].action_within hturns
  · obtain ⟨winner?, hcontest⟩ := exists_contest hreliable dialect creations state schedule
    exact hcontest.decided hreturned

end Contest

def blankCreation : Creation .role "r1" where
  draft := ⟨some " r1 ", some "first", none⟩
  generated := ""
  now := ⟨0, 0⟩
  record := .create .role "r1" ⟨none, some "first", none⟩ ⟨0, 0⟩
  chosenId_eq := by decide
  newRecord_eq := by decide

def generatedCreation : Creation .role "r1" where
  draft := ⟨none, some "second", none⟩
  generated := "r1"
  now := ⟨1, 0⟩
  record := .create .role "r1" ⟨none, some "second", none⟩ ⟨1, 0⟩
  chosenId_eq := by decide
  newRecord_eq := by decide

/-- Both creations find the identifier free, and the second one inserts first. -/
theorem generatedCreation_wins :
    let creations := [blankCreation, generatedCreation]
    let final := (Interleaving.start (creations.map Creation.action) []).run
      (sqliteTable.store Sql.Backend.sqlite.dialect) [0, 1, 1, 0]
    Decided sqliteTable creations [] final
    ∧ final.programs[1]? = some (.done (.ok generatedCreation.record))
    ∧ final.programs[0]? = some (.done (.error (.alreadyExists .role "r1")))
    ∧ final.state = [generatedCreation.record] := by
  intro creations final
  obtain ⟨hreturned, hdecided⟩ := creations_decided sqliteTable_reliable Sql.Backend.sqlite.dialect
    creations [] [0, 1, 1, 0]
  have hturns : ∀ number < creations.length, 2 ≤ List.count number [0, 1, 1, 0] := by decide
  exact ⟨hdecided fun number hnumber => hreturned number hnumber (hturns number hnumber),
    rfl, rfl, rfl⟩

end Registrar
