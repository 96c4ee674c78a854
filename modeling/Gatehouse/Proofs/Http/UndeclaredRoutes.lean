import Gatehouse.Proofs.Http.BlankBodies
/-!
Requests for which there are no rules.

A table without rules for the path and the method of a request accepts whatever is read of the
request. But the body is read first, and one that is said to be JSON has to be JSON. So a guard
without rules for a request is not a guard that is not there:

    handed on, as it is          ↔  the body is not broken JSON
    else refused with the fault  ↔  the body is broken JSON         (handsOn_of_undeclared)

Nothing else counts, neither the query nor the headers nor the bytes of any other body, and the
empty table is no exception (`not_handsOn_brokenJson`). A form may have a length of its own at most,
and nothing is said of longer ones here.
-/

namespace Gatehouse.Http

/-! ## Broken JSON -/

/-- The headers name JSON, and the bytes are neither empty nor JSON. -/
structure BrokenJson (headers : Headers) (bytes : List UInt8) (e : Json.Error) : Prop where
  named : headers.NamesJson
  notEmpty : bytes ≠ []
  unread : Json.parseBytes bytes = .error e

namespace Guard

/-- The guard hands the request on, as it is, unless the body is broken JSON; it refuses that with
the fault. -/
structure OpenTo (guard : Guard) (request : Request) : Prop where
  handsOn : guard.HandsOn request ↔ ¬∃ e, BrokenJson request.headers request.body e
  refuses : ∀ e, BrokenJson request.headers request.body e →
    guard.handOn request = .error (.malformedBody e.message)

end Guard

/-! ## Lemmas -/

variable {headers : Headers} {bytes : List UInt8}

theorem BrokenJson.parse_eq {e : Json.Error} (h : BrokenJson headers bytes e) :
    Body.parse headers bytes = .error (.malformedBody e.message) := by
  rw [Guard.parse_of_ne_nil headers h.notEmpty, ofHeaders_eq, if_pos h.named]
  simp only [Body.decode, h.unread, Except.map]

/-- All other bodies are read. -/
theorem exists_parse_of_not_broken (h : ¬∃ e, BrokenJson headers bytes e)
    (hform : headers.NamesForm → bytes.length ≤ Body.maxFormLength) :
    ∃ body, Body.parse headers bytes = .ok body := by
  by_cases hne : bytes = []
  · exact ⟨none, by rw [hne]; rfl⟩
  rw [Guard.parse_of_ne_nil headers hne, ofHeaders_eq]
  by_cases hjson : headers.NamesJson
  · rw [if_pos hjson]
    cases hread : Json.parseBytes bytes with
    | error e => exact absurd ⟨e, hjson, hne, hread⟩ h
    | ok value => exact ⟨some value, by simp only [Body.decode, hread, Except.map]⟩
  rw [if_neg hjson]
  by_cases hnamed : headers.NamesForm
  · rw [if_pos hnamed]
    simp only [Body.decode, if_neg (Nat.not_lt.mpr (hform hnamed))]
    exact ⟨_, rfl⟩
  · rw [if_neg hnamed]
    exact ⟨_, rfl⟩

/-- What is read of a request without rules is accepted. -/
theorem check_of_undeclared {table : Rules.Table} {request : Request}
    (hroute : table.get? request.received.path request.method = none) (body : Option Json) :
    table.check (Guard.descriptor request body) = .accepted := by
  have hpath : (Guard.descriptor request body).path = request.received.path :=
    String.empty_append
  unfold Rules.Table.check
  rw [hpath]
  simp only [Guard.descriptor, hroute]

namespace Guard

theorem openTo_of_undeclared {guard : Guard} {request : Request} (hfits : guard.Fits request)
    (hform : request.headers.NamesForm → request.body.length ≤ Body.maxFormLength)
    (hroute : guard.table.get? request.received.path request.method = none) :
    guard.OpenTo request := by
  have hrefuses : ∀ e, BrokenJson request.headers request.body e →
      guard.handOn request = .error (.malformedBody e.message) := fun e hbroken => by
    simp only [handOn_of_fits hfits, hbroken.parse_eq]
  refine ⟨⟨?_, fun hnot => ?_⟩, hrefuses⟩
  · rintro hhands ⟨e, hbroken⟩
    exact (refuses_of_error (hrefuses e hbroken)).not_handsOn hhands
  · obtain ⟨body, hparse⟩ := exists_parse_of_not_broken hnot hform
    exact handsOn_iff.mpr ⟨hfits, body, hparse, check_of_undeclared hroute body⟩

/-! ## The theorem -/

/-- **A request without rules is handed on.** Let the length that is declared and the body be within
the limit, and let no rules be for the path that came in and the method. The request is handed on,
as it is, unless its body is said to be JSON and is not: then it is refused, with the fault. The
same holds for every such request under the empty table. -/
theorem handsOn_of_undeclared (guard : Guard) (request : Request) (hfits : guard.Fits request)
    (hform : request.headers.NamesForm → request.body.length ≤ Body.maxFormLength) :
    (guard.table.get? request.received.path request.method = none → guard.OpenTo request) ∧
    Guard.OpenTo { guard with table := Rules.Table.empty } request :=
  ⟨openTo_of_undeclared hfits hform, openTo_of_undeclared hfits hform rfl⟩

/-- A request that no rules are for. -/
def strayRequest (contentType : String) (body : List UInt8) : Request :=
  let target : Uri := ⟨none, none, "/other", some "tag=x&tag=%FF"⟩
  ⟨"POST", target, target, [("content-type", Utf8.encode contentType)], body⟩

/-- It declares no length. -/
theorem fits_strayRequest {guard : Guard} {contentType : String} {body : List UInt8}
    (h : body.length ≤ guard.bodyLimit) : guard.Fits (strayRequest contentType body) :=
  fits_of_no_length rfl h

/-- An opening brace is no JSON. -/
theorem brokenJson_strayRequest :
    BrokenJson (strayRequest "application/json" ['\x7b'.toUInt8]).headers ['\x7b'.toUInt8]
      ⟨.endInObject, ⟨1, 1⟩⟩ where
  named := by decide
  notEmpty := List.cons_ne_nil _ _
  unread := rfl

/-- An opening brace is handed on as a text, also with a byte behind it that is none, and refused
as JSON. -/
theorem openTo_strayRequest :
    bareGuard.table.get? "/other" "POST" = none ∧
    bareGuard.HandsOn (strayRequest "text/plain" ['\x7b'.toUInt8, 0xFF]) ∧
    bareGuard.handOn (strayRequest "application/json" ['\x7b'.toUInt8]) =
      .error (.malformedBody "EOF while parsing an object at line 1 column 1") := by
  have hroute : bareGuard.table.get? "/other" "POST" = none :=
    (Rules.Table.get?_insert _ _ _ _ _ _).trans (if_neg (by decide))
  have hplain := handsOn_of_undeclared bareGuard (strayRequest "text/plain" ['\x7b'.toUInt8, 0xFF])
    (fits_strayRequest (by decide)) (fun h => absurd h (by decide))
  have hjson := handsOn_of_undeclared bareGuard (strayRequest "application/json" ['\x7b'.toUInt8])
    (fits_strayRequest (by decide)) (fun h => absurd h (by decide))
  refine ⟨hroute, (hplain.1 hroute).handsOn.mpr ?_,
    (hjson.1 hroute).refuses _ brokenJson_strayRequest⟩
  rintro ⟨e, hbroken⟩
  exact absurd hbroken.named (by decide)

/-- The empty table lets not all requests past that are within the limit. -/
theorem not_handsOn_brokenJson :
    let guard : Guard := ⟨.empty, 64⟩
    let request := strayRequest "application/json" ['\x7b'.toUInt8]
    guard.Fits request ∧ guard.table.get? request.received.path request.method = none ∧
      ¬guard.HandsOn request := by
  intro guard request
  have hfits : guard.Fits request := fits_strayRequest (by decide)
  have hopen : guard.OpenTo request :=
    openTo_of_undeclared hfits (fun h => absurd h (by decide)) rfl
  exact ⟨hfits, rfl, fun hhands => hopen.handsOn.mp hhands ⟨_, brokenJson_strayRequest⟩⟩

end Guard

end Gatehouse.Http
