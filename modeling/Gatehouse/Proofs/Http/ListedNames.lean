import Gatehouse.Proofs.Http.FormWriting
import Gatehouse.Proofs.Http.GatewayCheck
import Gatehouse.Proofs.Http.QueryCheck
import Gatehouse.Proofs.Rules.Insertions
import Gatehouse.Proofs.Rules.Loading
/-!
The names that a table lists, sent one at a time.

A listing of a table has the names of the query parameters of each route. A request for the route
that has such a name and a value as its query, and nothing else there, is judged by the first rule
for the name, and the value is one string:

    name          →  the entry (name, value)
    stem ++ "[]"  →  the entry (stem, [value])                       (judged_listed_name)

So a name that is listed is known, unless it ends in `[]`: this ending is not a part of a name in a
query, where it says that the name has a list. A rule for such a name can not be met, and a request
that sends the name is rejected for its stem if no other rule is for that
(`rejected_bracketed_name`).
-/

namespace Gatehouse

open Check (Descriptor)
open Http.Query (splitKey_append splitKey_plain)

namespace Rules

/-- All that the query of the request has is one entry. The request is rejected if no rule has the
name of the entry, or if the value does not satisfy the first rule that has; else the body alone
decides. -/
structure JudgedBy (table : Table) (route : Route) (request : Descriptor) (entry : String × Json) :
    Prop where
  query : request.query = [entry]
  unknown : entry.1 ∉ route.queryNames →
    table.check request = .rejected (.unknownQueryParameter entry.1)
  invalid : entry.1 ∈ route.queryNames → ¬route.Passes entry →
    table.check request = .rejected (.invalidQueryParameterType entry.1)
  passes : route.Passes entry → ∀ rejection,
    table.check request = .rejected rejection ↔ route.bodyViolation? request = some rejection

/-- What violates the rules of a route for one entry is that entry, or the body. -/
theorem judgedBy_of_query {table : Table} {route : Route} {request : Descriptor}
    {entry : String × Json} (hroute : table.get? request.path request.method = some route)
    (hquery : request.query = [entry]) : JudgedBy table route request entry := by
  have hpasses : (∀ e ∈ request.query, route.Passes e) ↔ route.Passes entry := by
    rw [hquery, List.forall_mem_singleton]
  have hviolation : route.queryViolation? request.query = route.entryViolation? entry := by
    rw [hquery, Route.queryViolation?, List.findSome?_singleton]
  refine ⟨hquery, fun hname => ?_, fun hname hnot => ?_, fun hpass rejection => ?_⟩
  · rw [Table.check_of_get? hroute, Route.violation?_eq_some_iff, hviolation]
    exact .inl (Route.entryViolation?_eq_some_iff.mpr
      (.inl ⟨rfl, fun hdeclared => hname (Route.mem_queryNames_iff.mpr hdeclared)⟩))
  · rw [Table.check_of_get? hroute, Route.violation?_eq_some_iff, hviolation]
    -- an entry that does not pass is refused, and not for its name
    obtain ⟨rejection, hrejection⟩ := Option.ne_none_iff_exists'.mp fun h =>
      hnot (Route.entryViolation?_eq_none_iff.mp h)
    rcases Route.entryViolation?_eq_some_iff.mp hrejection with ⟨-, hunknown⟩ | ⟨rfl, -⟩
    · exact absurd (Route.mem_queryNames_iff.mp hname) hunknown
    · exact .inl hrejection
  · rw [Table.check_of_get? hroute, Route.violation?_eq_some_iff, hviolation,
      Route.entryViolation?_eq_none_iff.mpr hpass, hpasses]
    simp [hpass]

/-- A name that is known is not rejected as unknown, whatever the name in the rejection is. -/
theorem JudgedBy.not_unknown {table : Table} {route : Route} {request : Descriptor}
    {entry : String × Json} (h : JudgedBy table route request entry)
    (hname : entry.1 ∈ route.queryNames) (other : String) :
    table.check request ≠ .rejected (.unknownQueryParameter other) := by
  intro hcheck
  by_cases hpass : route.Passes entry
  · rw [h.passes hpass, Route.bodyViolation?_eq_some_iff] at hcheck
    rcases hcheck with ⟨hcontra, -⟩ | ⟨hcontra, -⟩ <;> cases hcontra
  · rw [h.invalid hname hpass] at hcheck
    cases hcheck

end Rules

namespace Http

open Rules (JudgedBy)

/-- A request for a route of a table, whose query is one pair of a name that is listed for the route
and a value. The pair may be written in any way. -/
structure SendsListed (table : Rules.Table) (entry : Rules.Entry) (request : Request)
    (name value : String) : Prop where
  listed : entry ∈ table.entries
  named : name ∈ entry.route.queryNames
  path : request.received.path = entry.path
  method : Ascii.lower request.method = entry.method
  query : Form.Writes [(name, value)] (Utf8.encode (request.uri.query.getD ""))

theorem SendsListed.judgedBy {table : Rules.Table} {entry : Rules.Entry} {request : Request}
    {name value : String} (h : SendsListed table entry request name value) {e : String × Json}
    (he : Query.ofPairs [(name, value)] = [e]) (body : Option Json) :
    JudgedBy table entry.route (Guard.descriptor request body) e := by
  have hpath : (Guard.descriptor request body).path = entry.path := by
    rw [← h.path]
    exact String.empty_append
  have hget : table.get? (Guard.descriptor request body).path
      (Guard.descriptor request body).method = some entry.route := by
    rw [hpath, ← Rules.Table.get?_lower]
    show table.get? entry.path (Ascii.lower request.method) = some entry.route
    rw [h.method]
    exact ((table.mem_entries_iff entry).mp h.listed).2
  have hquery : (Guard.descriptor request body).query = [e] := by
    rw [← he]
    exact Form.ofUri_of_writes h.query
  exact Rules.judgedBy_of_query hget hquery

/-- **What is listed can be sent.** A request sends one pair, of a name that is listed for its route
and a value. If the name does not end in `[]`, the request is judged by the first rule for the name
with the value as one string, and is never refused for a name that is unknown. If it does, the
request is judged by the first rule for the name without this ending, with a list of the value. -/
theorem judged_listed_name (guard : Guard) {entry : Rules.Entry} {request : Request}
    {name value : String} (h : SendsListed guard.table entry request name value) :
    (¬Query.Bracketed (name, value) →
      (∀ body, JudgedBy guard.table entry.route (Guard.descriptor request body)
        (name, .string value)) ∧
      ∀ other, guard.handOn request ≠ .error (.ofRejection (.unknownQueryParameter other))) ∧
    ∀ stem, name = stem ++ "[]" →
      ∀ body, JudgedBy guard.table entry.route (Guard.descriptor request body)
        (stem, .array [.string value]) := by
  constructor
  · intro hplain
    have hpairs : Query.ofPairs [(name, value)] = [(name, .string value)] := by
      simp [Query.ofPairs, Query.addPair, splitKey_plain hplain, Query.merge, Fields.put,
        Fields.get?]
    have hjudged := h.judgedBy hpairs
    refine ⟨hjudged, fun other herror => ?_⟩
    obtain ⟨-, body, -, hcheck⟩ := Guard.rejects_of_handOn herror
    exact (hjudged body).not_unknown h.named other hcheck
  · rintro stem rfl
    have hpairs : Query.ofPairs [(stem ++ "[]", value)] = [(stem, .array [.string value])] := by
      simp [Query.ofPairs, Query.addPair, splitKey_append, Query.merge, Fields.put, Fields.get?]
    exact h.judgedBy hpairs

/-- A request for one path with one pair as its query. -/
def onePair (name value : String) : Request :=
  let target : Uri := ⟨none, none, "/x", some (Form.text [(name, value)])⟩
  ⟨"GET", target, target, [], []⟩

/-- Rules for that path, with a name that does not end in `[]` and one that does. -/
def twoNames : Rules.Route :=
  ⟨[.query "a&b" .integer, .query "ids[]" .string]⟩

theorem sendsListed_onePair {name : String} (h : name ∈ twoNames.queryNames) (value : String) :
    SendsListed (Rules.Table.empty.insert "/x" "get" twoNames) ⟨"/x", "get", twoNames⟩
      (onePair name value) name value :=
  ⟨List.mem_singleton.mpr rfl, h, rfl, show Ascii.lower "GET" = "get" by decide,
    Form.writes_text _⟩

/-- A value that is no integer is refused for its value. The other name is refused for its stem. -/
theorem judged_twoNames :
    SendsListed (Rules.Table.empty.insert "/x" "get" twoNames) ⟨"/x", "get", twoNames⟩
      (onePair "a&b" "x") "a&b" "x" ∧
    (Rules.Table.empty.insert "/x" "get" twoNames).check
      (Guard.descriptor (onePair "a&b" "x") none) = .rejected (.invalidQueryParameterType "a&b") ∧
    (Rules.Table.empty.insert "/x" "get" twoNames).check
      (Guard.descriptor (onePair "ids[]" "x") none) = .rejected (.unknownQueryParameter "ids") := by
  have hsends := sendsListed_onePair (by decide : "a&b" ∈ twoNames.queryNames) "x"
  have hsends' := sendsListed_onePair (by decide : "ids[]" ∈ twoNames.queryNames) "x"
  have hfails : ¬twoNames.Passes ("a&b", .string "x") := fun hpasses =>
    absurd (Rules.Route.entryViolation?_eq_none_iff.mpr hpasses) (by decide)
  have hjudged := (judged_listed_name ⟨_, 16⟩ hsends).1 (by decide)
  have hjudged' := (judged_listed_name ⟨_, 16⟩ hsends').2 "ids" rfl
  exact ⟨hsends, (hjudged.1 none).invalid hsends.named hfails, (hjudged' none).unknown (by decide)⟩

/-- A parameter as it is written, the name of which ends in `[]`. -/
def writtenIds : Json :=
  .object [("name", .string "ids[]"), ("in", .string "query"), ("type", .string "string")]

/-- A document with a rule for this parameter alone. -/
def bracketedDocument : Rules.Document :=
  ⟨[("/x", [("get", .object [("parameters", .array [writtenIds])])])]⟩

/-- A request that sends the name of the document is refused, as its stem is not known. -/
theorem rejected_bracketed_name :
    ∃ table entry, Rules.Table.ofDocument bracketedDocument = .ok table ∧
      SendsListed table entry (onePair "ids[]" "1") "ids[]" "1" ∧
      Guard.handOn ⟨table, 16⟩ (onePair "ids[]" "1") =
        .error (.ofRejection (.unknownQueryParameter "ids")) := by
  let route : Rules.Route := ⟨[.query "ids[]" .string]⟩
  have hread : Rules.Parameter.ofJson writtenIds = .ok (.query "ids[]" .string) := by cbv
  have hload : Rules.Operation.load .empty
      ⟨"/x", "get", .object [("parameters", .array [writtenIds])]⟩ =
        .ok (Rules.Table.empty.insert "/x" "get" route) :=
    Rules.Operation.load_eq_ok_iff.mpr ⟨route, .list rfl (.cons hread .nil), rfl⟩
  have htable : Rules.Table.ofDocument bracketedDocument =
      .ok (Rules.Table.empty.insert "/x" "get" route) := by
    rw [Rules.ofDocument_eq_foldlM]
    show Rules.Operation.load _ _ >>= pure = _
    rw [hload]
    rfl
  refine ⟨_, ⟨"/x", "get", route⟩, htable, ?_, rfl⟩
  exact ⟨List.mem_singleton.mpr rfl, by decide, rfl, by decide, Form.writes_text _⟩

end Http

end Gatehouse
