import Gatehouse.Proofs.Http.GuardSafety
import Gatehouse.Proofs.Http.QueryGroups
import Gatehouse.Proofs.Json.NoContent
import Gatehouse.Proofs.Lists.Cutting
/-!
What can be sent as a body where the rules have none.

A body is read by its media type in three ways, and each of them has bytes that count as no
content: no bytes at all; for JSON, the texts of `null`, `{}`, `[]` and `""`; for a form, nothing
but `&`. A route without a schema for its body lets these past and no others:

    the guard hands the request on  ↔  LacksContent headers body       (handsOn_iff_lacksContent)

In particular no broken text is read as an empty one, whatever its media type.
-/

namespace Gatehouse.Http

open Json (Blanks Spells)
open Rules (NoContent Parameter)

/-! ## Bodies without content -/

/-- The media type that is named: the text of the first `content-type` header in lower case, up to
a semicolon, without blanks at its ends. It is empty if there is no such text. -/
def Headers.mediaName (headers : Headers) : String :=
  let text := Ascii.lower ((headers.text? "content-type").getD "")
  String.ofList (Text.trim (text.toList.takeWhile (· != ';')))

/-- The media type is JSON. -/
def Headers.NamesJson (headers : Headers) : Prop :=
  headers.mediaName = "application/json" ∨ ∃ stem, headers.mediaName = stem ++ "+json"

/-- The media type is that of a form. -/
def Headers.NamesForm (headers : Headers) : Prop :=
  headers.mediaName = "application/x-www-form-urlencoded"

/-- The bodies that count as no content, by the headers. -/
inductive LacksContent (headers : Headers) : List UInt8 → Prop
  | nothing : LacksContent headers []
  | json {before core after : List UInt8} {value : Json} : headers.NamesJson →
      Blanks before → Spells core value → Blanks after →
      LacksContent headers (before ++ (core ++ after))
  | form {bytes : List UInt8} : headers.NamesForm → (∀ b ∈ bytes, b = '&'.toUInt8) →
      LacksContent headers bytes

/-! ## Lemmas: the media type -/

theorem namesJson_iff {headers : Headers} :
    headers.NamesJson ↔ headers.mediaName.toList = "application/json".toList ∨
      "+json".toList.isSuffixOf headers.mediaName.toList = true := by
  unfold Headers.NamesJson
  rw [String.toList_inj, List.isSuffixOf_iff_suffix]
  refine or_congr_right ⟨?_, ?_⟩
  · rintro ⟨stem, hstem⟩
    exact ⟨stem.toList, by rw [hstem, String.toList_append]⟩
  · rintro ⟨stem, hstem⟩
    refine ⟨String.ofList stem, ?_⟩
    rw [← String.toList_inj, String.toList_append, String.toList_ofList, hstem]

instance (headers : Headers) : Decidable headers.NamesJson :=
  decidable_of_iff _ namesJson_iff.symm

instance (headers : Headers) : Decidable headers.NamesForm :=
  inferInstanceAs (Decidable (_ = _))

/-- The name of the media type tells which one it is. -/
theorem ofHeaders_eq (headers : Headers) :
    MediaType.ofHeaders headers =
      if headers.NamesJson then .json else if headers.NamesForm then .form else .other := by
  simp only [namesJson_iff, Headers.NamesForm, ← String.toList_inj]
  unfold MediaType.ofHeaders MediaType.ofText Headers.mediaName
  simp only [String.toList_ofList]

theorem not_namesJson_of_namesForm {headers : Headers} (h : headers.NamesForm) :
    ¬headers.NamesJson := by
  rw [namesJson_iff, show headers.mediaName = _ from h]
  decide

/-! ## Lemmas: forms -/

/-- A form has no pairs iff it is made of separators. -/
theorem pairs_eq_nil_iff {bytes : List UInt8} :
    Form.pairs bytes = [] ↔ ∀ b ∈ bytes, b = '&'.toUInt8 := by
  unfold Form.pairs
  rw [List.map_eq_nil_iff, List.filter_eq_nil_iff, ← splitOn_eq_nils_iff]
  simp

theorem ofPairs_eq_nil_iff {pairs : List (String × String)} :
    Query.ofPairs pairs = [] ↔ pairs = [] := by
  constructor
  · intro h
    rw [Query.ofPairs_eq_map_groups, List.map_eq_nil_iff] at h
    cases pairs with
    | nil => rfl
    | cons pair pairs =>
      have hname : Query.nameOf pair ∈ Query.names (pair :: pairs) :=
        Query.mem_names_iff.mpr ⟨pair, List.mem_cons_self, rfl⟩
      rw [h] at hname
      cases hname
  · rintro rfl
    rfl

/-! ## Lemmas: reading a body -/

/-- What is spelled has no content. -/
theorem noContent_of_spells {core : List UInt8} {value : Json} (h : Spells core value) :
    NoContent (some value) := by
  cases h with
  | null => exact .null
  | object => exact .object
  | array => exact .array
  | string => exact .string

variable {headers : Headers} {bytes : List UInt8}

/-- The bodies without content of a media type that is JSON. -/
theorem lacksContent_json_iff (h : headers.NamesJson) (hne : bytes ≠ []) :
    LacksContent headers bytes ↔
      ∃ value, Json.parseBytes bytes = .ok value ∧ NoContent (some value) := by
  constructor
  · intro hlacks
    cases hlacks with
    | nothing => exact absurd rfl hne
    | @json before core after value _ hbefore hcore hafter =>
      have hvalue := noContent_of_spells hcore
      refine ⟨value, (Json.parseBytes_noContent_iff hvalue).mpr ?_, hvalue⟩
      exact ⟨before, core, after, hbefore, hcore, hafter, rfl⟩
    | form hform => exact absurd h (not_namesJson_of_namesForm hform)
  · rintro ⟨value, hparse, hvalue⟩
    obtain ⟨before, core, after, hbefore, hcore, hafter, rfl⟩ :=
      (Json.parseBytes_noContent_iff hvalue).mp hparse
    exact .json h hbefore hcore hafter

theorem lacksContent_form_iff (h : headers.NamesForm) :
    LacksContent headers bytes ↔ ∀ b ∈ bytes, b = '&'.toUInt8 := by
  constructor
  · intro hlacks
    cases hlacks with
    | nothing => exact fun _ hb => absurd hb List.not_mem_nil
    | json hjson => exact absurd hjson (not_namesJson_of_namesForm h)
    | form _ hall => exact hall
  · exact .form h

/-- No other body than the empty one lacks content. -/
theorem lacksContent_other_iff (hjson : ¬headers.NamesJson) (hform : ¬headers.NamesForm) :
    LacksContent headers bytes ↔ bytes = [] := by
  constructor
  · intro hlacks
    cases hlacks with
    | nothing => rfl
    | json h => exact absurd h hjson
    | form h => exact absurd h hform
  · rintro rfl
    exact .nothing

/-- All that can become of a body that fits: it lacks content, it is malformed JSON, or something is
read that counts as content. -/
theorem parse_cases (headers : Headers) (hlength : bytes.length ≤ Body.maxFormLength) :
    (LacksContent headers bytes ∧
      ∃ body, Body.parse headers bytes = .ok body ∧ NoContent body) ∨
    (¬LacksContent headers bytes ∧ headers.NamesJson ∧ ∃ e, Json.parseBytes bytes = .error e ∧
      Body.parse headers bytes = .error (.malformedBody e.message)) ∨
    (¬LacksContent headers bytes ∧
      (headers.NamesJson → ∃ value, Json.parseBytes bytes = .ok value) ∧
      ∃ body, Body.parse headers bytes = .ok body ∧ ¬NoContent body) := by
  by_cases hne : bytes = []
  · rw [hne]
    exact .inl ⟨.nothing, none, rfl, .missing⟩
  rw [Guard.parse_of_ne_nil headers hne, ofHeaders_eq]
  by_cases hjson : headers.NamesJson
  · rw [if_pos hjson, lacksContent_json_iff hjson hne]
    unfold Body.decode
    cases Json.parseBytes bytes with
    | error e => exact .inr (.inl ⟨by simp, hjson, e, rfl, rfl⟩)
    | ok value =>
      by_cases hvalue : NoContent (some value)
      · exact .inl ⟨⟨value, rfl, hvalue⟩, some value, rfl, hvalue⟩
      · refine .inr (.inr ⟨?_, fun _ => ⟨value, rfl⟩, some value, rfl, hvalue⟩)
        rintro ⟨_, ⟨⟩, hno⟩
        exact hvalue hno
  rw [if_neg hjson]
  by_cases hform : headers.NamesForm
  · rw [if_pos hform, lacksContent_form_iff hform, ← pairs_eq_nil_iff, ← ofPairs_eq_nil_iff]
    unfold Body.decode
    simp only [if_neg (Nat.not_lt.mpr hlength)]
    by_cases hfields : Query.ofPairs (Form.pairs bytes) = []
    · rw [hfields]
      exact .inl ⟨rfl, _, rfl, .object⟩
    · refine .inr (.inr ⟨hfields, fun h => absurd h hjson, _, rfl, fun hno => hfields ?_⟩)
      generalize Query.ofPairs (Form.pairs bytes) = fields at hno
      cases hno
      rfl
  · rw [if_neg hform, lacksContent_other_iff hjson hform]
    refine .inr (.inr ⟨hne, fun h => absurd h hjson, _, rfl, fun hno => hne ?_⟩)
    generalize htext : Utf8.decodeLossy bytes = text at hno
    cases hno
    exact Utf8.decodeLossy_eq_empty_iff.mp htext

/-! ## Lemmas: checking without a body -/

/-- Where a query passes and a body has no schema, it is left to the body whether it counts as
content. -/
theorem check_noContent {table : Rules.Table} {request : Check.Descriptor} {route : Rules.Route}
    (hroute : table.get? request.path request.method = some route)
    (hbody : ∀ p, route.First Parameter.IsBody p → p.schema = none)
    (hquery : ∀ e ∈ request.query, route.Passes e) [Decidable (NoContent request.body)] :
    table.check request =
      if NoContent request.body then .accepted else .rejected .bodyNotPermitted := by
  have hpasses := Rules.Route.queryViolation?_eq_none_iff.mpr hquery
  have hschema := Rules.Route.bodySchema_eq_none_iff.mpr hbody
  unfold Rules.Table.check Rules.Route.violation? Rules.Route.bodyViolation?
  simp only [hroute, hpasses, hschema, Rules.noContent_iff]
  by_cases hno : NoContent request.body
  · simp only [if_pos hno]
  · simp only [if_neg hno]

/-! ## The theorem -/

namespace Guard

/-- **What a route without a body lets past.** If all else of a request is in order, it is handed
on iff its body lacks content. Else it is refused: for malformed JSON with the fault, and for
everything else because no body is permitted. -/
theorem handsOn_iff_lacksContent (guard : Guard) (request : Request) (route : Rules.Route)
    (hlimit : guard.bodyLimit ≤ Body.maxFormLength) (hfits : guard.Fits request)
    (hroute : guard.table.get? request.received.path request.method = some route)
    (hbody : ∀ p, route.First Parameter.IsBody p → p.schema = none)
    (hquery : ∀ e ∈ Query.ofUri request.uri, route.Passes e) :
    (guard.HandsOn request ↔ LacksContent request.headers request.body) ∧
    (¬LacksContent request.headers request.body →
      (request.headers.NamesJson ∧ ∃ e, Json.parseBytes request.body = .error e ∧
        guard.handOn request = .error (.malformedBody e.message)) ∨
      ((request.headers.NamesJson → ∃ value, Json.parseBytes request.body = .ok value) ∧
        guard.handOn request = .error (.ofRejection .bodyNotPermitted))) := by
  classical
  have hcheck : ∀ body, guard.table.check (descriptor request body) =
      if NoContent body then .accepted else .rejected .bodyNotPermitted := fun body => by
    have hpath : (descriptor request body).path = request.received.path := String.empty_append
    exact check_noContent (hpath ▸ hroute) hbody hquery
  rcases parse_cases request.headers (hfits.2.trans hlimit) with
    ⟨hlacks, body, hparse, hno⟩ | ⟨hlacks, hjson, e, hmalformed, hparse⟩ |
    ⟨hlacks, hread, body, hparse, hno⟩
  · have hok : guard.handOn request = .ok request := by
      simp only [handOn_of_fits hfits, hparse, hcheck, if_pos hno]
    exact ⟨iff_of_true (handsOn_of_ok hok) hlacks, fun hnot => absurd hlacks hnot⟩
  · have herror : guard.handOn request = .error (.malformedBody e.message) := by
      simp only [handOn_of_fits hfits, hparse]
    exact ⟨iff_of_false (refuses_of_error herror).not_handsOn hlacks,
      fun _ => .inl ⟨hjson, e, hmalformed, herror⟩⟩
  · have herror : guard.handOn request = .error (.ofRejection .bodyNotPermitted) := by
      simp only [handOn_of_fits hfits, hparse, hcheck, if_neg hno]
    exact ⟨iff_of_false (refuses_of_error herror).not_handsOn hlacks,
      fun _ => .inr ⟨hread, herror⟩⟩

/-- A route whose first body parameter has no schema, and the second one has. -/
def bareRoute : Rules.Route :=
  ⟨[.query "tag" .string, ⟨"note", .body, none⟩, .body (.object [] [])]⟩

/-- A guard of that route alone. -/
def bareGuard : Guard :=
  ⟨Rules.Table.empty.insert "/items" "get" bareRoute, 64⟩

/-- A request for that route. -/
def bareRequest (contentType : String) (body : List UInt8) : Request :=
  let target : Uri := ⟨none, none, "/items", some "tag=x"⟩
  ⟨"GET", target, target, [("content-type", Utf8.encode contentType)], body⟩

theorem fits_bareRequest {contentType : String} {body : List UInt8} (h : body.length ≤ 64) :
    bareGuard.Fits (bareRequest contentType body) :=
  fits_of_no_length rfl h

/-- An object without fields is handed on, a byte that is no text is not. -/
theorem handsOn_bareRequest :
    let object := [' '.toUInt8, '\x7b'.toUInt8, '\n'.toUInt8, '\x7d'.toUInt8]
    bareGuard.HandsOn (bareRequest "Application/Merge-Patch+JSON; v=1" object) ∧
    bareGuard.handOn (bareRequest "text/plain" [0xFF]) =
      .error (.badRequest "no request body permitted") := by
  intro object
  have hroute : bareGuard.table.get? "/items" "GET" = some bareRoute :=
    (Rules.Table.get?_insert _ _ _ _ _ _).trans (if_pos (by decide))
  have hpasses : ∀ e ∈ Query.ofUri ⟨none, none, "/items", some "tag=x"⟩, bareRoute.Passes e :=
    Rules.Route.queryViolation?_eq_none_iff.mp (by decide)
  have hmain := fun contentType body (hlength : body.length ≤ 64) =>
    handsOn_iff_lacksContent bareGuard (bareRequest contentType body) bareRoute (by decide)
      (fits_bareRequest hlength) hroute (Rules.Route.bodySchema_eq_none_iff.mp rfl) hpasses
  constructor
  · have hspace : Blanks [' '.toUInt8] := fun b hb => .inl (List.mem_singleton.mp hb)
    have hline : Blanks ['\n'.toUInt8] := fun b hb => .inr (.inl (List.mem_singleton.mp hb))
    have hnothing : Blanks [] := fun _ hb => absurd hb List.not_mem_nil
    exact (hmain _ object (by decide)).1.mpr (.json (by decide) hspace (.object hline) hnothing)
  · have hlacks : ¬LacksContent (bareRequest "text/plain" [0xFF]).headers [0xFF] := by
      rw [lacksContent_other_iff (by decide) (by decide)]
      exact List.cons_ne_nil _ _
    rcases (hmain "text/plain" [0xFF] (by decide)).2 hlacks with ⟨hjson, -⟩ | ⟨-, herror⟩
    · exact absurd hjson (by decide)
    · exact herror

end Guard

end Gatehouse.Http
