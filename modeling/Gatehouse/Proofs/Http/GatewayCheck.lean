import Gatehouse.Http.Gateway
import Gatehouse.Proofs.Http.GuardSafety
import Gatehouse.Proofs.Text.Encoding
/-!
What a gateway answers when the rules reject a request.

The rules for origins are around the guard, and they answer an `OPTIONS` request without asking
it. So for a request that is rejected

    another method  →  400, with the words for the violation as JSON
    `OPTIONS`       →  200, the same answer as under any other table          (handler_of_rejected)

and what a table has for the method `options` is without effect on it (not_tells_options).
-/

namespace Gatehouse.Http

/-! ## Headers that are added -/

theorem Response.first?_addHeader {response : Response} {name : String} {value : List UInt8}
    (h : response.headers.first? name = some value) (other : String) (added : List UInt8) :
    (response.addHeader other added).headers.first? name = some value := by
  unfold Headers.first? at h ⊢
  unfold addHeader
  rw [List.lookup_append, h, Option.some_or]

namespace Origins

/-- There are rules for origins unless a list holds `*`. -/
theorem exists_ofList?_iff {texts : List String} :
    (∃ origins, ofList? texts = some origins) ↔ "*" ∉ texts := by
  have hlegal : (Utf8.encode "*").all isLegalByte = true := by decide
  have hmem : Utf8.encode "*" ∈ (texts.map Utf8.encode).filter (·.all isLegalByte) ↔
      "*" ∈ texts := by
    rw [List.mem_filter, List.mem_map]
    constructor
    · rintro ⟨⟨text, htext, heq⟩, -⟩
      rwa [Utf8.encode_inj.mp heq] at htext
    · intro h
      exact ⟨⟨"*", h, rfl⟩, hlegal⟩
  unfold ofList?
  by_cases hempty : texts = []
  · simp [hempty]
  · simp [hempty, hmem]

variable (origins : Origins) (headers : Headers) (response : Response)

/-- Marking an answer adds headers and nothing else. -/
theorem mark_status : (origins.mark headers response).status = response.status := by
  unfold mark
  cases origins.allowed? headers <;> rfl

theorem mark_body : (origins.mark headers response).body = response.body := by
  unfold mark
  cases origins.allowed? headers <;> rfl

theorem first?_mark {response : Response} {name : String} {value : List UInt8}
    (h : response.headers.first? name = some value) :
    (origins.mark headers response).headers.first? name = some value := by
  unfold mark
  cases origins.allowed? headers with
  | none => exact Response.first?_addHeader h _ _
  | some origin => exact Response.first?_addHeader (Response.first?_addHeader h _ _) _ _

end Origins

/-! ## Answers that are finished -/

/-- The answer to the request has no body: it is a `HEAD` request for the path `/health`. -/
def LosesBody (request : Request) : Prop :=
  request.uri.path = healthPath ∧ request.method = "HEAD"

instance (request : Request) : Decidable (LosesBody request) :=
  inferInstanceAs (Decidable (_ ∧ _))

theorem finish_status (request : Request) (response : Response) :
    (finish request response).status = response.status := by
  unfold finish
  split
  · rfl
  · split <;> rfl

theorem finish_body (request : Request) (response : Response) :
    (finish request response).body = if LosesBody request then [] else response.body := by
  unfold finish LosesBody
  by_cases hpath : request.uri.path = healthPath
  · by_cases hhead : request.method = "HEAD"
    · simp [hpath, hhead]
    · by_cases hget : request.method = "GET"
      · simp [hpath, hget]
      · simp [hpath, hhead, hget, Response.addText, Response.addHeader]
  · simp [hpath]

theorem first?_finish (request : Request) {response : Response} {name : String}
    {value : List UInt8} (h : response.headers.first? name = some value) :
    (finish request response).headers.first? name = some value := by
  unfold finish
  split
  · exact h
  · split
    · exact h
    · exact Response.first?_addHeader h _ _

/-- An answer to a request tells a problem: by its status, and in JSON unless it has no body. -/
structure Response.Tells (response : Response) (request : Request) (problem : Problem) : Prop where
  status : response.status = problem.status
  mediaType : response.headers.first? "content-type" = some (Utf8.encode "application/json")
  body : response.body =
    if LosesBody request then [] else Utf8.encode problem.toJson.text

/-- A request is within the limits, and the rules reject what is read of it. -/
def Guard.Rejects (guard : Guard) (request : Request) (rejection : Check.Rejection) : Prop :=
  guard.Fits request ∧ ∃ body, Body.parse request.headers request.body = .ok body ∧
    guard.table.check (descriptor request body) = .rejected rejection

theorem Guard.Rejects.handOn {guard : Guard} {request : Request} {rejection : Check.Rejection}
    (h : guard.Rejects request rejection) :
    guard.handOn request = .error (.ofRejection rejection) := by
  obtain ⟨hfits, body, hparse, hcheck⟩ := h
  rw [handOn_of_fits hfits, hparse]
  simp only [hcheck]

/-- The words for a violation are told of no other request. -/
theorem Guard.rejects_of_handOn {guard : Guard} {request : Request} {rejection : Check.Rejection}
    (h : guard.handOn request = .error (.ofRejection rejection)) :
    guard.Rejects request rejection := by
  rcases guard.handOn_cases request with
    ⟨-, -, hok⟩ | ⟨-, hlong⟩ | ⟨hfits, problem, hobjects, hproblem⟩
  · cases hok.symm.trans h
  · cases hlong.symm.trans h
  · have heq : problem = .ofRejection rejection := Except.error.inj (hproblem.symm.trans h)
    cases hobjects with
    | unreadable hparse =>
      obtain ⟨text, rfl⟩ := malformed_of_parse hparse
      cases heq
    | rejected hparse hcheck =>
      obtain rfl := Check.Rejection.message_inj (Problem.badRequest.inj heq)
      exact ⟨hfits, _, hparse, hcheck⟩

namespace Gateway

section

variable (config : Server.Config) (table : Rules.Table)

/-- There is a gateway unless the origins hold `*`, whatever the table is. -/
theorem exists_ofConfig?_iff :
    (∃ gateway, ofConfig? config table = some gateway) ↔ "*" ∉ config.origins := by
  rw [← Origins.exists_ofList?_iff]
  unfold ofConfig?
  cases Origins.ofList? config.origins <;> simp

theorem ofConfig?_eq_none_iff : ofConfig? config table = none ↔ "*" ∈ config.origins := by
  rw [Option.eq_none_iff_forall_ne_some, ← Decidable.not_not (p := "*" ∈ config.origins),
    ← exists_ofConfig?_iff config table]
  exact not_exists.symm

end

/-- An `OPTIONS` request is answered by the rules for origins. -/
theorem handler_options (gateway : Gateway) {request : Request} (h : request.method = "OPTIONS") :
    gateway.handler request = finish request (gateway.origins.preflight request.headers) := by
  unfold handler Origins.wrap
  rw [if_pos h]

/-- Any other request that the guard refuses has the answer that tells why. -/
theorem tells_of_handOn {gateway : Gateway} {request : Request} {problem : Problem}
    (hmethod : request.method ≠ "OPTIONS") (h : gateway.guard.handOn request = .error problem) :
    (gateway.handler request).Tells request problem := by
  have hguard : gateway.guard.wrap endpoint request = problem.response :=
    Guard.refuses_of_error h endpoint
  have hanswer : gateway.handler request =
      finish request (gateway.origins.mark request.headers problem.response) := by
    unfold handler Origins.wrap
    rw [if_neg hmethod, hguard]
  rw [hanswer]
  constructor
  · rw [finish_status, Origins.mark_status]
    rfl
  · apply first?_finish
    apply Origins.first?_mark
    rfl
  · rw [finish_body, Origins.mark_body]
    simp only [Problem.response, Response.ofText]

theorem preflight_status (origins : Origins) (headers : Headers) :
    (origins.preflight headers).status = 200 := by
  show (origins.mark headers (.ofStatus 200)).status = 200
  rw [Origins.mark_status]
  rfl

/-- **What becomes of a request that is rejected.** A configuration without `*` among its origins
has a gateway, with a guard for its table and its limit. A request that the guard rejects is told
so, unless it is an `OPTIONS` request: then the status is 200, and the answer is the one that the
request has under any table. -/
theorem handler_of_rejected (config : Server.Config) (table : Rules.Table)
    (horigins : "*" ∉ config.origins) :
    ∃ gateway, ofConfig? config table = some gateway ∧
      gateway.guard = ⟨table, config.bodyLimit⟩ ∧
      ∀ request rejection, gateway.guard.Rejects request rejection →
        (request.method ≠ "OPTIONS" →
          (gateway.handler request).Tells request (.ofRejection rejection)) ∧
        (request.method = "OPTIONS" → (gateway.handler request).status = 200 ∧
          ∀ other gateway', ofConfig? config other = some gateway' →
            gateway'.handler request = gateway.handler request) := by
  obtain ⟨origins, hlist⟩ := Origins.exists_ofList?_iff.mpr horigins
  have hgateway : ∀ table, ofConfig? config table = some ⟨origins, ⟨table, config.bodyLimit⟩⟩ := by
    intro table
    unfold ofConfig?
    rw [hlist, Option.map_some]
  refine ⟨_, hgateway table, rfl, fun request rejection hrejects => ⟨?_, ?_⟩⟩
  · intro hmethod
    exact tells_of_handOn hmethod hrejects.handOn
  · intro hmethod
    constructor
    · rw [handler_options _ hmethod, finish_status, preflight_status]
    · intro other gateway' hother
      obtain rfl := Option.some.inj ((hgateway other).symm.trans hother)
      rw [handler_options _ hmethod, handler_options _ hmethod]

/-- A table that lets `GET` and `OPTIONS` requests on one path have no query. -/
def queryless : Rules.Table :=
  (Rules.Table.empty.insert "/x" "get" .empty).insert "/x" "options" .empty

/-- A request on that path with a query. -/
def withQuery (method : String) : Request :=
  ⟨method, ⟨none, none, "/x", some "q=1"⟩, ⟨none, none, "/x", some "q=1"⟩, [], []⟩

theorem rejects_withQuery {method : String}
    (h : queryless.check (Guard.descriptor (withQuery method) none) =
      .rejected (.unknownQueryParameter "q")) (limit : Nat) :
    Guard.Rejects ⟨queryless, limit⟩ (withQuery method) (.unknownQueryParameter "q") := by
  refine ⟨⟨fun value n hvalue _ => ?_, Nat.zero_le _⟩, none, rfl, h⟩
  cases hvalue

/-- A `GET` request is told of its query. -/
theorem tells_get : "*" ∉ Server.Config.default.origins ∧
    ∃ gateway, ofConfig? .default queryless = some gateway ∧
      (gateway.handler (withQuery "GET")).Tells (withQuery "GET")
        (.ofRejection (.unknownQueryParameter "q")) := by
  have horigins : "*" ∉ Server.Config.default.origins := by decide
  obtain ⟨gateway, hgateway, hguard, htells⟩ :=
    handler_of_rejected .default queryless horigins
  have hrejects : gateway.guard.Rejects (withQuery "GET") (.unknownQueryParameter "q") := by
    rw [hguard]
    exact rejects_withQuery (by decide) _
  exact ⟨horigins, gateway, hgateway, (htells _ _ hrejects).1 (by decide)⟩

/-- An `OPTIONS` request is not told, whatever the rules for it say of its query. -/
theorem not_tells_options : "*" ∉ Server.Config.default.origins ∧
    ∃ gateway, ofConfig? .default queryless = some gateway ∧
      gateway.guard.Rejects (withQuery "OPTIONS") (.unknownQueryParameter "q") ∧
      (gateway.handler (withQuery "OPTIONS")).status = 200 ∧
      ¬(gateway.handler (withQuery "OPTIONS")).Tells (withQuery "OPTIONS")
        (.ofRejection (.unknownQueryParameter "q")) := by
  have hstatus : ∀ gateway : Gateway, (gateway.handler (withQuery "OPTIONS")).status = 200 := by
    intro gateway
    rw [handler_options gateway rfl, finish_status, preflight_status]
  refine ⟨by decide, ⟨.any, ⟨queryless, Server.Config.default.bodyLimit⟩⟩, rfl,
    rejects_withQuery (by decide) _, hstatus _, fun htells => ?_⟩
  have hother : (200 : Nat) = 400 := (hstatus _).symm.trans htells.status
  omega

end Gateway

end Gatehouse.Http
