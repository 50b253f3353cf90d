import Registrar.Http.Server
import Registrar.Proofs.RecordStore

/-!
# Failures of a store

A store that fails ends the request, and what the client is told is fixed by the request and by the
call that failed: a response with the status 500 that says nothing of the cause. So two failures of
one call cannot be told apart from outside.
-/

namespace Registrar

/-! ### Programs that give up -/

section GivesUp

variable {I J : Interface} {α β σ : Type}

/-- Answers one call, the one with the given number counted from nought, by a reply of its own, and all others as ever. -/
def Interface.Handler.spoiled (handler : I.Handler σ)
    (spoil : (request : I.Call) → I.Reply request) : I.Handler (Option Nat × σ)
  | request, (some 0, state) => (spoil request, none, state)
  | request, (some (number + 1), state) =>
    ((handler request state).1, some number, (handler request state).2)
  | request, (none, state) => ((handler request state).1, none, (handler request state).2)

/-- Whatever call fails, the program ends at once, as `ends` says for that call. -/
def Program.GivesUp (fails : (request : I.Call) → I.Reply request → Prop)
    (ends : I.Call → α → Prop) : Program I α → Prop
  | .done _ => True
  | .call request next =>
    (∀ reply, fails request reply → ∃ result, next reply = .done result ∧ ends request result)
      ∧ ∀ reply, (next reply).GivesUp fails ends

namespace Program.GivesUp

variable {fails : (request : I.Call) → I.Reply request → Prop} {ends : I.Call → α → Prop}
  {program : Program I α}

theorem bind {rest : α → Program I β} {endsRest : I.Call → β → Prop}
    (hprogram : program.GivesUp fails ends)
    (hends : ∀ request result, ends request result →
      ∃ last, rest result = .done last ∧ endsRest request last)
    (hrest : ∀ result, (rest result).GivesUp fails endsRest) :
    (program.bind rest).GivesUp fails endsRest := by
  induction program with
  | done result => exact hrest result
  | call request next ih =>
      refine ⟨?_, fun reply => ih reply (hprogram.2 reply)⟩
      intro reply hfails
      obtain ⟨result, hnext, hresult⟩ := hprogram.1 reply hfails
      change ∃ last, (next reply).bind rest = .done last ∧ _
      rw [hnext]
      exact hends request result hresult

theorem map {make : α → β} {endsMade : I.Call → β → Prop} (hprogram : program.GivesUp fails ends)
    (hends : ∀ request result, ends request result → endsMade request (make result)) :
    (program.bind fun result => .done (make result)).GivesUp fails endsMade := by
  apply hprogram.bind
  · exact fun request result hresult => ⟨_, rfl, hends request result hresult⟩
  · exact fun result => trivial

/-- Where a failure fails the call that it is part of, the program gives up on it as on the call. -/
theorem expand {each : (request : I.Call) → Program J (I.Reply request)}
    {failsEach : (request : J.Call) → J.Reply request → Prop} {endsEach : J.Call → α → Prop}
    (hprogram : program.GivesUp fails ends)
    (heach : ∀ request, (each request).GivesUp failsEach fun part reply =>
      fails request reply ∧ ∀ result, ends request result → endsEach part result) :
    (program.expand each).GivesUp failsEach endsEach := by
  induction program with
  | done result => trivial
  | call request next ih =>
      apply (heach request).bind
      · rintro part reply ⟨hfails, hpart⟩
        obtain ⟨result, hnext, hresult⟩ := hprogram.1 reply hfails
        rw [hnext]
        exact ⟨result, rfl, hpart result hresult⟩
      · exact fun reply => ih reply (hprogram.2 reply)

/-- A spoiled call that is never made changes nothing, and one that is made ends the run. -/
theorem run_spoiled (hprogram : program.GivesUp fails ends) (handler : I.Handler σ)
    (spoil : (request : I.Call) → I.Reply request)
    (hspoil : ∀ request, fails request (spoil request)) (number : Nat) (state : σ) :
    match (program.calls handler state)[number]? with
    | none => (program.run (handler.spoiled spoil) (some number, state)).1
        = (program.run handler state).1
    | some request =>
      ends request (program.run (handler.spoiled spoil) (some number, state)).1 := by
  -- The number counts down to the spoiled call, which is the first one once it is nought.
  induction program generalizing number state with
  | done result => rfl
  | call request next ih =>
      cases number with
      | zero =>
          obtain ⟨result, hnext, hresult⟩ := hprogram.1 (spoil request) (hspoil request)
          change ends request ((next (spoil request)).run _ _).1
          rw [hnext]
          exact hresult
      | succ number => exact ih _ (hprogram.2 _) number _

end Program.GivesUp

end GivesUp

/-! ### What the registry makes of a failure -/

/-- What goes wrong in a store: its causes, outermost first, or what a listing fails for. -/
structure Breakdown where
  causes : List String
  reason : String

def Breakdown.answer {kind : ResourceKind} (breakdown : Breakdown) :
    (request : RepositoryCall kind) → request.Reply
  | .find _ => .error (.failure breakdown.causes)
  | .insert _ => .error (.failure breakdown.causes)
  | .update _ => .error (.failure breakdown.causes)
  | .delete _ => .error (.failure breakdown.causes)
  | .page _ _ => .error (.storage breakdown.reason)

def RepositoryCall.isListing {kind : ResourceKind} : RepositoryCall kind → Bool
  | .page _ _ => true
  | _ => false

section Registry

variable {kind : ResourceKind} {α : Type}

def Broken (request : RepositoryCall kind) (reply : request.Reply) : Prop :=
  ∃ breakdown : Breakdown, reply = breakdown.answer request

def Lost (request : RepositoryCall kind) (outcome : Except RecordError α) : Prop :=
  request.isListing = false ∧ ∃ reason, outcome = .error (.database reason)

namespace Registry

theorem get_givesUp (id : String) : (get id : Action kind (Record kind)).GivesUp Broken Lost := by
  refine ⟨?_, ?_⟩
  · rintro reply ⟨breakdown, rfl⟩
    exact ⟨_, rfl, rfl, _, rfl⟩
  · rintro (fault | none | record) <;> trivial

theorem insertNew_givesUp (record : Record kind) : (insertNew record).GivesUp Broken Lost := by
  refine ⟨?_, ?_⟩
  · rintro reply ⟨breakdown, rfl⟩
    exact ⟨_, rfl, rfl, _, rfl⟩
  · rintro (fault | done)
    · cases fault <;> trivial
    · trivial

/-- Looking for the identifier may fail and so may the insertion, and both end the creation. -/
theorem create_givesUp (draft : Draft) (generated : String) (now : Time.Instant) :
    (create draft generated now : Action kind (Record kind)).GivesUp Broken Lost := by
  unfold create
  cases newRecord kind draft generated now with
  | error fault => trivial
  | ok record =>
      refine ⟨?_, ?_⟩
      · rintro reply ⟨breakdown, rfl⟩
        exact ⟨_, rfl, rfl, _, rfl⟩
      · rintro (fault | none | old)
        · trivial
        · exact insertNew_givesUp record
        · trivial

theorem writeBack_givesUp (id : String) (record : Record kind) :
    (writeBack id record).GivesUp Broken Lost := by
  refine ⟨?_, ?_⟩
  · rintro reply ⟨breakdown, rfl⟩
    exact ⟨_, rfl, rfl, _, rfl⟩
  · rintro (fault | _ | _) <;> trivial

theorem update_givesUp (id : String) (patch : Patch) :
    (update id patch : Action kind (Record kind)).GivesUp Broken Lost := by
  apply (get_givesUp id).bind
  · rintro request outcome ⟨hrecord, reason, rfl⟩
    exact ⟨_, rfl, hrecord, reason, rfl⟩
  · rintro (fault | record)
    · trivial
    · dsimp only
      cases (record.apply patch).validate with
      | error fault => trivial
      | ok done => exact writeBack_givesUp id _

theorem delete_givesUp (id : String) : (delete id : Action kind Unit).GivesUp Broken Lost := by
  refine ⟨?_, ?_⟩
  · rintro reply ⟨breakdown, rfl⟩
    exact ⟨_, rfl, rfl, _, rfl⟩
  · rintro (fault | _ | _) <;> trivial

theorem list_givesUp (terms : ListingTerms) (params : ListParams) :
    (list terms params : Program (Repository kind) (Except ListError (Listed kind))).GivesUp Broken
      fun request outcome => RepositoryCall.isListing request = true
        ∧ ∃ reason, outcome = .error (.storage reason) := by
  unfold list
  cases ListQuery.parse params kind.catalog terms.policy with
  | error fault => trivial
  | ok query =>
      refine ⟨?_, fun reply => trivial⟩
      rintro reply ⟨breakdown, rfl⟩
      exact ⟨_, rfl, rfl, _, rfl⟩

end Registry

end Registry

/-! ### What the client is told -/

def failureProblem {kind : ResourceKind} (call : RepositoryCall kind) (path : String) : Problem where
  type := "about:blank"
  title := if call.isListing then "Storage Failure" else "Internal Server Error"
  status := 500
  detail :=
    if call.isListing then "The listing could not be completed" else "An internal error occurred"
  instancePath := path
  code := "STORAGE_FAILURE"
  requestId := none
  errors := none

/-- The reason of a failure does not reach the problem. -/
theorem problem_of_database {kind : ResourceKind} {call : RepositoryCall kind}
    (hcall : call.isListing = false) (reason path : String) :
    (RecordError.database reason).problem path = failureProblem call path := by
  unfold failureProblem
  rw [hcall]
  rfl

theorem problem_of_storage {kind : ResourceKind} {call : RepositoryCall kind}
    (hcall : call.isListing = true) (reason path : String) :
    (ListError.storage reason).problem path = failureProblem call path := by
  unfold failureProblem
  rw [hcall]
  rfl

namespace Http

open Registry

section Handlers

variable {kind : ResourceKind}

def Told (path : String) (call : RepositoryCall kind) (response : Response) : Prop :=
  response = .problem (failureProblem call path)

theorem recordResponse_givesUp {α : Type} {action : Action kind α}
    (hgivesUp : action.GivesUp Broken Lost) (path : String) (success : α → Response) :
    (action.bind fun result => .done (recordResponse path success result)).GivesUp Broken
      (Told path) := by
  apply hgivesUp.map
  rintro call outcome ⟨hcall, reason, rfl⟩
  exact congrArg Response.problem (problem_of_database hcall reason path)

theorem listRecords_givesUp (terms : ListingTerms) (target : Target) :
    (listRecords terms target : Program (Repository kind) Response).GivesUp Broken
      (Told target.path) := by
  unfold listRecords
  cases ListParams.ofTarget target with
  | error problem => trivial
  | ok params =>
      apply (list_givesUp terms params).bind
      · rintro call outcome ⟨hcall, reason, rfl⟩
        refine ⟨_, rfl, ?_⟩
        exact congrArg Response.problem (problem_of_storage hcall reason target.path)
      · rintro (fault | listed) <;> trivial

theorem createRecord_givesUp (occasion : Occasion) (path : String) (request : Request) :
    (createRecord occasion path request : Program (Repository kind) Response).GivesUp Broken
      (Told path) := by
  unfold createRecord
  cases request.readBody (Draft.decode kind) with
  | error fault => trivial
  | ok draft => exact recordResponse_givesUp (create_givesUp draft _ _) path _

theorem updateRecord_givesUp (path id : String) (request : Request) :
    (updateRecord path id request : Program (Repository kind) Response).GivesUp Broken
      (Told path) := by
  unfold updateRecord
  cases request.readBody (Patch.decode kind) with
  | error fault => trivial
  | ok patch => exact recordResponse_givesUp (update_givesUp id patch) path _

end Handlers

def BrokenIn (call : Stores.Call) (reply : Stores.Reply call) : Prop :=
  Broken call.2 reply

def ToldIn (path : String) (call : Stores.Call) (response : Response) : Prop :=
  Told path call.2 response

theorem inStores_givesUp {kind : ResourceKind} {program : Program (Repository kind) Response}
    {path : String} (hprogram : program.GivesUp Broken (Told path)) :
    program.inStores.GivesUp BrokenIn (ToldIn path) := by
  apply hprogram.expand
  intro call
  refine ⟨?_, fun reply => trivial⟩
  exact fun reply hbroken => ⟨reply, rfl, hbroken, fun response htold => htold⟩

/-- At whatever place and by whatever method, a failed call ends the request. -/
theorem respondAt_givesUp (terms : ListingTerms) (occasion : Occasion) (target : Target)
    (request : Request) (method : Method) (place : Place) :
    (respondAt terms occasion target request method place).GivesUp BrokenIn
      (ToldIn target.path) := by
  cases place with
  | health => trivial
  | description => trivial
  | collection kind =>
      cases method with
      | get => exact inStores_givesUp (listRecords_givesUp terms target)
      | post => exact inStores_givesUp (createRecord_givesUp occasion target.path request)
      | head | put | delete | other => trivial
  | member kind segment =>
      unfold respondAt
      dsimp only
      cases Text.unescaped? segment with
      | none => cases method <;> trivial
      | some id =>
          cases method with
          | get => exact inStores_givesUp (recordResponse_givesUp (get_givesUp id) target.path _)
          | put => exact inStores_givesUp (updateRecord_givesUp target.path id request)
          | delete =>
              exact inStores_givesUp (recordResponse_givesUp (delete_givesUp id) target.path _)
          | head | post | other => trivial

theorem route_givesUp (terms : ListingTerms) (occasion : Occasion) (request : Request)
    (method : Method) :
    (route terms occasion request method).GivesUp BrokenIn
      (ToldIn (Target.read request.target).path) := by
  unfold route
  dsimp only
  split
  · trivial
  · cases Place.ofPath? (Target.read request.target).path with
    | none => trivial
    | some place => exact respondAt_givesUp terms occasion _ request method place

/-- The whole response when a call fails, under the identifier of the request; `HEAD` gets no body. -/
def failureResponse (occasion : Occasion) (request : Request) (call : Stores.Call) : Response where
  status := 500
  mediaType := some "application/problem+json"
  payload :=
    if request.method = .head then .none
    else .json (failureProblem call.2 (Target.read request.target).path).json
  requestId := some ((request.header? "x-request-id").getD occasion.requestId)

/-- A response after a failed call depends on the request and the call, not on the failure. -/
theorem respond_givesUp (terms : ListingTerms) (occasion : Occasion) (request : Request) :
    (respond terms occasion request).GivesUp BrokenIn
      (fun call response => response = failureResponse occasion request call) := by
  have hheadOnly : ((route terms occasion request .get).bind fun response =>
      .done response.headOnly).GivesUp BrokenIn fun call response =>
      response = (Response.problem
        (failureProblem call.2 (Target.read request.target).path)).headOnly := by
    apply (route_givesUp terms occasion request .get).map
    rintro call response rfl
    rfl
  -- `HEAD` is routed as `GET` and loses the body, so that a failure is cut down in the same way.
  unfold respond failureResponse
  dsimp only
  split
  · apply hheadOnly.map
    rintro call response rfl
    rfl
  · apply (route_givesUp terms occasion request request.method).map
    rintro call response rfl
    rfl

def brokenResponse {σ : Type} (terms : ListingTerms) (occasion : Occasion) (request : Request)
    (store : Stores.Handler σ) (state : σ) (number : Nat) (breakdown : Breakdown) : Response :=
  ((respond terms occasion request).run (store.spoiled fun call => breakdown.answer call.2)
    (some number, state)).1

/-- **Failures of a store.** Which response a request gets when one of its calls breaks down depends on the request and on that call alone, so that no two breakdowns can be told apart: it has the status 500 and the code of a storage failure, and without such a call it is the response of the sound store. -/
theorem failures_withheld {σ : Type} (terms : ListingTerms) (occasion : Occasion)
    (request : Request) (store : Stores.Handler σ) (state : σ) (number : Nat)
    (breakdown other : Breakdown) :
    brokenResponse terms occasion request store state number breakdown
        = brokenResponse terms occasion request store state number other
      ∧ brokenResponse terms occasion request store state number breakdown
        = (((respond terms occasion request).calls store state)[number]?).elim
            ((respond terms occasion request).run store state).1
            (failureResponse occasion request) := by
  have hresponse : ∀ breakdown,
      brokenResponse terms occasion request store state number breakdown
        = (((respond terms occasion request).calls store state)[number]?).elim
            ((respond terms occasion request).run store state).1
            (failureResponse occasion request) := by
    intro breakdown
    have hrun := (respond_givesUp terms occasion request).run_spoiled store
      (fun call => breakdown.answer call.2) (fun call => ⟨breakdown, rfl⟩) number state
    unfold brokenResponse
    split at hrun
    · next hnone => rw [hnone]; exact hrun
    · next call hcall => rw [hcall]; exact hrun
  exact ⟨(hresponse breakdown).trans (hresponse other).symm, hresponse breakdown⟩

/-- A deletion makes one call, so that only the first can break down. -/
example :
    let record : Record .role := ⟨"r1", some "Admin", none, ⟨0, 0⟩, by decide⟩
    let status := fun number => (brokenResponse ⟨.standard, none⟩ ⟨"", "", ⟨0, 0⟩⟩
      ⟨.delete, "/v1/roles/r1", [], ""⟩ Database.sqlite (Database.empty.setRows .role [record])
      number ⟨["disk full"], ""⟩).status
    status 0 = 500 ∧ status 1 = 204 := by
  decide +kernel

end Http

end Registrar
