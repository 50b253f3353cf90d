import Registrar.Proofs.RecordRequests

/-!
# The registry as a map

Served one after another, requests get the answers that a map from identifiers to records would give,
and the table holds what the map holds. A request that fails leaves the table as it was, and one that
succeeds touches only the record that it is about.
-/

namespace Registrar

open Time

abbrev RecordMap (kind : ResourceKind) :=
  String → Option (Record kind)

namespace RecordMap

variable {kind : ResourceKind}

def empty : RecordMap kind :=
  fun _ => none

def answer : RecordRequest → RecordMap kind → RecordOutcome kind × RecordMap kind
  | .create draft generated now, records =>
    let id := draft.id.elim generated Text.trim
    let record := Record.create kind id draft now.toMicroseconds
    match checkId id, record.validate, records id with
    | .error fault, _, _ => (.error fault, records)
    | .ok (), .error fault, _ => (.error fault, records)
    | .ok (), .ok (), some _ => (.error (.alreadyExists kind id), records)
    | .ok (), .ok (), none => (.ok (some record), Function.update records id (some record))
  | .get id, records =>
    match records id with
    | none => (.error (.notFound kind id), records)
    | some record => (.ok (some record), records)
  | .update id patch, records =>
    match records id with
    | none => (.error (.notFound kind id), records)
    | some record =>
      match (record.apply patch).validate with
      | .error fault => (.error fault, records)
      | .ok () =>
        (.ok (some (record.apply patch)), Function.update records id (some (record.apply patch)))
  | .delete id, records =>
    match records id with
    | none => (.error (.notFound kind id), records)
    | some _ => (.ok none, Function.update records id none)

def answers : List RecordRequest → RecordMap kind → List (RecordOutcome kind × RecordMap kind)
  | [], _ => []
  | request :: requests, records =>
    answer request records :: answers requests (answer request records).2

end RecordMap

section Serve

variable {kind : ResourceKind} {rows : List (Record kind)}

theorem answer_create (records : RecordMap kind) (draft : Draft) (generated : String)
    (now : Instant) :
    RecordMap.answer (.create draft generated now) records
      = match Registry.newRecord kind draft generated now with
        | .error fault => (.error fault, records)
        | .ok record =>
          match records record.id with
          | some _ => (.error (.alreadyExists kind record.id), records)
          | none => (.ok (some record), Function.update records record.id (some record)) := by
  unfold RecordMap.answer
  rw [newRecord_eq]
  dsimp only [Registry.chosenId]
  cases checkId (draft.id.elim generated Text.trim) with
  | error fault => rfl
  | ok done =>
      cases hvalid : (Record.create kind (draft.id.elim generated Text.trim) draft
        now.toMicroseconds).validate with
      | error fault => rfl
      | ok done =>
          change _ = match records (draft.id.elim generated Text.trim) with
            | some _ => _
            | none => _
          cases records (draft.id.elim generated Text.trim) <;> rfl

/-- A request finds in the table what it would find in the map of its records, and does to the one what it would do to the other. -/
theorem Served.answer_eq {request : RecordRequest} {outcome : RecordOutcome kind}
    {after : List (Record kind)} (hserved : Served rows request outcome after) :
    RecordMap.answer request (recordAt rows) = (outcome, recordAt after) := by
  cases hserved with
  | refused hnew => simp only [answer_create, hnew]
  | taken hnew hold => simp only [answer_create, hnew, hold]
  | created hnew hfree =>
      rw [recordAt_append _ hfree]
      simp only [answer_create, hnew, hfree]
  | absent hrequest habsent =>
      cases request with
      | create draft generated now => contradiction
      | get id =>
          have hnone : recordAt rows id = none := habsent
          simp only [RecordMap.answer, RecordRequest.target, hnone]
      | update id patch =>
          have hnone : recordAt rows id = none := habsent
          simp only [RecordMap.answer, RecordRequest.target, hnone]
      | delete id =>
          have hnone : recordAt rows id = none := habsent
          simp only [RecordMap.answer, RecordRequest.target, hnone]
  | found hrecord => simp only [RecordMap.answer, hrecord]
  | spoiled hrecord hinvalid => simp only [RecordMap.answer, hrecord, hinvalid]
  | @updated id patch record hrecord hvalid =>
      have hid : (record.apply patch).id = id :=
        (record.id_apply patch).trans (id_of_recordAt hrecord)
      have hold : recordAt rows (record.apply patch).id = some record := by rw [hid, hrecord]
      rw [recordAt_map_replaceBy _ hold, hid]
      simp only [RecordMap.answer, hrecord, hvalid]
  | deleted hrecord =>
      rw [recordAt_filter]
      simp only [RecordMap.answer, hrecord]

/-! ### Requests one after another -/

structure ServedCall (kind : ResourceKind) where
  request : RecordRequest
  before : List (Record kind)
  outcome : RecordOutcome kind
  after : List (Record kind)

def serveAll : List RecordRequest → List (Record kind) → List (ServedCall kind)
  | [], _ => []
  | request :: requests, rows =>
    ⟨request, rows, (request.serve rows).1, (request.serve rows).2⟩ ::
      serveAll requests (request.serve rows).2

/-- What may be said of a served request. -/
structure ServedCall.Sound (call : ServedCall kind) : Prop where
  /-- The table stays in order. -/
  kept : WellKept call.after
  /-- A request that fails changes nothing. -/
  failed : ∀ fault, call.outcome = .error fault → call.after = call.before
  /-- Records that the request is not about stay as they are, and where they are. -/
  others : call.after.filter (·.id ≠ call.request.target)
    = call.before.filter (·.id ≠ call.request.target)
  /-- Other requests than creations fail to find the record exactly if there is none. -/
  absent : call.request.isCreation = false →
    (call.outcome = .error (.notFound kind call.request.target)
      ↔ recordAt call.before call.request.target = none)
  /-- A creation fails if its identifier is taken or a check fails. -/
  refused : call.request.isCreation = true → ∀ fault, call.outcome = .error fault →
    fault = .alreadyExists kind call.request.target ∨ ∃ field reason, fault = .validation field reason
  /-- A creation succeeds exactly if its identifier may be stored and is free, and its label is allowed. -/
  created_iff : ∀ draft generated now, call.request = .create draft generated now →
    ((∃ record, call.outcome = .ok (some record))
      ↔ StorableId (draft.id.elim generated Text.trim) ∧ AllowedLabel kind draft.label
        ∧ recordAt call.before (draft.id.elim generated Text.trim) = none)
  /-- A new record is what its draft says, under an identifier that was free. -/
  created : ∀ draft generated now record, call.request = .create draft generated now →
    call.outcome = .ok (some record) →
      recordAt call.before record.id = none
        ∧ record.id = draft.id.elim generated Text.trim
        ∧ record.label = draft.label
        ∧ record.description = (if kind.describes then draft.description else none)
        ∧ record.created = now.toMicroseconds
  /-- A change succeeds exactly if there is a record and the label that it would then have is allowed. -/
  updated_iff : ∀ id patch, call.request = .update id patch →
    ((∃ record, call.outcome = .ok (some record))
      ↔ ∃ old, recordAt call.before id = some old ∧ AllowedLabel kind (patch.label.or old.label))
  /-- Of a changed record only what the patch sets is new. -/
  updated : ∀ id patch record, call.request = .update id patch →
    call.outcome = .ok (some record) →
      ∃ old, recordAt call.before id = some old
        ∧ record.id = old.id
        ∧ record.label = patch.label.or old.label
        ∧ record.description
          = (if kind.describes then patch.description.or old.description else old.description)
        ∧ record.created = old.created

section Facts

variable {request : RecordRequest} {outcome : RecordOutcome kind} {after : List (Record kind)}

theorem Served.filter_others (hserved : Served rows request outcome after) :
    after.filter (·.id ≠ request.target) = rows.filter (·.id ≠ request.target) := by
  cases hserved with
  | @created draft generated now record hnew hfree =>
      obtain ⟨hrecord, -, -⟩ := newRecord_eq_ok_iff.mp hnew
      have hid : record.id = Registry.chosenId draft generated := by
        rw [hrecord]
        rfl
      rw [List.filter_append]
      simp [RecordRequest.target, hid]
  | @updated id patch record hrecord hvalid =>
      have hid : (record.apply patch).id = id :=
        (record.id_apply patch).trans (id_of_recordAt hrecord)
      have hothers := filter_map_replaceBy (record.apply patch) rows
      rw [hid] at hothers
      exact hothers
  | deleted hrecord =>
      rw [List.filter_filter]
      exact List.filter_congr fun row _ => Bool.and_self _
  | refused hnew => rfl
  | taken hnew hold => rfl
  | absent hrequest habsent => rfl
  | found hrecord => rfl
  | spoiled hrecord hinvalid => rfl

/-- A request that is not a creation is told that there is no record exactly if there is none. -/
theorem Served.notFound_iff (hserved : Served rows request outcome after)
    (hrequest : request.isCreation = false) :
    outcome = .error (.notFound kind request.target) ↔ recordAt rows request.target = none := by
  cases hserved with
  | absent _ habsent => exact iff_of_true rfl habsent
  | refused hnew => contradiction
  | taken hnew hold => contradiction
  | created hnew hfree => contradiction
  | @found id record hrecord =>
      have hsome : recordAt rows (RecordRequest.get id).target = some record := hrecord
      simp [hsome]
  | @spoiled id patch record fault hrecord hinvalid =>
      have hsome : recordAt rows (RecordRequest.update id patch).target = some record := hrecord
      obtain ⟨reason, rfl⟩ := Record.fault_of_validate hinvalid
      simp [hsome]
  | @updated id patch record hrecord hvalid =>
      have hsome : recordAt rows (RecordRequest.update id patch).target = some record := hrecord
      simp [hsome]
  | @deleted id record hrecord =>
      have hsome : recordAt rows (RecordRequest.delete id).target = some record := hrecord
      simp [hsome]

/-- A creation succeeds exactly if the identifier can be stored and is free and the label is allowed. -/
theorem Served.created_iff {draft : Draft} {generated : String} {now : Instant}
    (hserved : Served rows (.create draft generated now) outcome after)
    (huuid : IsUuid generated) :
    (∃ record, outcome = .ok (some record))
      ↔ StorableId (Registry.chosenId draft generated) ∧ AllowedLabel kind draft.label
        ∧ recordAt rows (Registry.chosenId draft generated) = none := by
  rw [← and_assoc, ← exists_newRecord_iff huuid now]
  cases hserved with
  | refused hnew =>
      refine iff_of_false nofun ?_
      rintro ⟨⟨record, hpassed⟩, -⟩
      rw [hnew] at hpassed
      contradiction
  | taken hnew hold =>
      obtain ⟨rfl, -, -⟩ := newRecord_eq_ok_iff.mp hnew
      refine iff_of_false nofun ?_
      rintro ⟨-, hfree⟩
      exact absurd (hold.symm.trans hfree) (Option.some_ne_none _)
  | @created _ _ _ record hnew hfree =>
      have hid : record.id = Registry.chosenId draft generated := by
        rw [(newRecord_eq_ok_iff.mp hnew).1]
        rfl
      exact iff_of_true ⟨record, rfl⟩ ⟨⟨record, hnew⟩, hid ▸ hfree⟩
  | absent hrequest habsent => contradiction

/-- An update succeeds exactly if there is a record and the label it would then have is allowed. -/
theorem Served.updated_iff {id : String} {patch : Patch}
    (hserved : Served rows (.update id patch) outcome after) :
    (∃ record, outcome = .ok (some record))
      ↔ ∃ old, recordAt rows id = some old ∧ AllowedLabel kind (patch.label.or old.label) := by
  have hallowed : ∀ old : Record kind,
      (old.apply patch).validate = .ok () ↔ AllowedLabel kind (patch.label.or old.label) := by
    intro old
    rw [Record.validate_eq_ok_iff, old.label_apply]
  cases hserved with
  | absent hrequest habsent =>
      refine iff_of_false nofun ?_
      rintro ⟨old, hold, -⟩
      exact absurd (habsent.symm.trans hold).symm (Option.some_ne_none old)
  | @spoiled _ _ record fault hrecord hinvalid =>
      refine iff_of_false nofun ?_
      rintro ⟨old, hold, hlabel⟩
      obtain rfl := Option.some_inj.mp (hrecord.symm.trans hold)
      rw [(hallowed record).mpr hlabel] at hinvalid
      contradiction
  | @updated _ _ record hrecord hvalid =>
      exact iff_of_true ⟨_, rfl⟩ ⟨record, hrecord, (hallowed record).mp hvalid⟩

theorem Served.sound (hserved : Served rows request outcome after)
    (huuid : request.GeneratesUuid) (hrows : WellKept rows) :
    ServedCall.Sound ⟨request, rows, outcome, after⟩ where
  kept := hserved.wellKept huuid hrows
  failed := by
    rintro fault rfl
    cases hserved <;> rfl
  others := hserved.filter_others
  absent := hserved.notFound_iff
  refused := by
    rintro hcreation fault rfl
    cases hserved with
    | refused hnew => exact Or.inr (fault_of_newRecord hnew)
    | @taken draft generated now record old hnew hold =>
        obtain ⟨hrecord, -, -⟩ := newRecord_eq_ok_iff.mp hnew
        rw [hrecord]
        exact Or.inl rfl
    | absent hrequest habsent => exact absurd (hcreation.symm.trans hrequest) (by decide)
    | spoiled hrecord hinvalid => contradiction
  created_iff := by
    rintro draft generated now rfl
    exact hserved.created_iff huuid
  created := by
    rintro draft generated now record rfl rfl
    cases hserved with
    | created hnew hfree =>
        obtain ⟨rfl, -, -⟩ := newRecord_eq_ok_iff.mp hnew
        exact ⟨hfree, rfl, rfl, rfl, rfl⟩
  updated_iff := by
    rintro id patch rfl
    exact hserved.updated_iff
  updated := by
    rintro id patch record rfl hsuccess
    cases hserved with
    | @updated _ _ old hrecord hvalid =>
        obtain rfl := Option.some_inj.mp (Except.ok.inj hsuccess)
        exact ⟨old, hrecord, rfl, old.label_apply patch, old.description_apply patch, rfl⟩
    | absent hrequest habsent => contradiction
    | spoiled hrecord hinvalid => contradiction

end Facts

theorem serveAll_sound {requests : List RecordRequest}
    (huuids : ∀ request ∈ requests, request.GeneratesUuid) (hrows : WellKept rows) :
    ∀ call ∈ serveAll requests rows, call.Sound := by
  induction requests generalizing rows with
  | nil => exact fun call hcall => absurd hcall List.not_mem_nil
  | cons request requests ih =>
      obtain ⟨huuid, hrest⟩ := List.forall_mem_cons.mp huuids
      have hserved := serve_served request rows
      exact List.forall_mem_cons.mpr
        ⟨hserved.sound huuid hrows, ih hrest (hserved.wellKept huuid hrows)⟩

/-- A whole series of requests has the outcomes of the map, by induction on the requests. -/
theorem serveAll_answers (requests : List RecordRequest) (rows : List (Record kind)) :
    (serveAll requests rows).map (fun call => (call.outcome, recordAt call.after))
      = RecordMap.answers requests (recordAt rows) := by
  induction requests generalizing rows with
  | nil => rfl
  | cons request requests ih =>
      have hanswer := (serve_served request rows).answer_eq
      rw [serveAll, List.map_cons, ih, RecordMap.answers, hanswer]

/-- **Refinement.** From an empty table on, requests served one after another have the outcomes of a map and leave what the map holds; failures change nothing, successes only the record that they are about, and every table on the way is in order. -/
theorem serveAll_refines (kind : ResourceKind) {requests : List RecordRequest}
    (huuids : ∀ request ∈ requests, request.GeneratesUuid) :
    (serveAll requests ([] : List (Record kind))).map
        (fun call => (call.outcome, recordAt call.after))
        = RecordMap.answers requests RecordMap.empty
      ∧ ∀ call ∈ serveAll requests ([] : List (Record kind)), call.Sound :=
  ⟨serveAll_answers requests [], serveAll_sound huuids WellKept.nil⟩

end Serve

/-- A role is created under a name with blanks around it, created again, changed, spoiled and deleted twice. -/
def roleRequests : List RecordRequest :=
  [.create ⟨some " r1 ", some "Admin", some "old"⟩ "67e55044-10b1-426f-9247-bb680e5fe0c8" ⟨0, 1500⟩,
    .create ⟨some "r1", none, none⟩ "0b5cbd5f-6e2b-4e86-a9c4-2b1d1e5ba1a1" ⟨1, 0⟩,
    .update "r1" ⟨none, some "new"⟩, .update "r1" ⟨some " ", none⟩, .get "r1", .delete "r1",
    .delete "r1"]

theorem roleRequests_refine :
    (∀ request ∈ roleRequests, request.GeneratesUuid)
      ∧ (serveAll roleRequests ([] : List (Record .role))).map
          (fun call => (call.outcome, recordAt call.after))
        = RecordMap.answers roleRequests RecordMap.empty
      ∧ (∀ call ∈ serveAll roleRequests ([] : List (Record .role)), call.Sound)
      ∧ (serveAll roleRequests ([] : List (Record .role))).map ServedCall.outcome
        = [.ok (some (.create .role "r1" ⟨none, some "Admin", some "old"⟩ ⟨0, 1000⟩)),
          .error (.alreadyExists .role "r1"),
          .ok (some (.create .role "r1" ⟨none, some "Admin", some "new"⟩ ⟨0, 1000⟩)),
          .error (.validation "name" "must not be blank"),
          .ok (some (.create .role "r1" ⟨none, some "Admin", some "new"⟩ ⟨0, 1000⟩)), .ok none,
          .error (.notFound .role "r1")] := by
  have huuids : ∀ request ∈ roleRequests, request.GeneratesUuid := by
    simp only [roleRequests, List.forall_mem_cons, RecordRequest.GeneratesUuid]
    exact ⟨by decide, by decide, trivial, trivial, trivial, trivial, trivial, by simp⟩
  obtain ⟨hanswers, hsound⟩ := serveAll_refines .role huuids
  exact ⟨huuids, hanswers, hsound, by decide⟩

end Registrar
