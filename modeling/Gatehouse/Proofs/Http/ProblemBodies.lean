import Gatehouse.Http.Problem
import Gatehouse.Proofs.Json.Printing
/-!
What the body of a refusal tells.

The body is JSON whatever the words for the problem are, and read as JSON it has these words and the
status of the answer:

    {"error": {"msg": words, "status": status}}

The words for a violation may hold a name that came with the request, and such a name may have any
characters. Still they tell which violation it is, with its name, and so does the body
(`body_tells_rejection`).
-/

namespace Gatehouse.Http.Problem

open Json (ReadsBack)

/-- What a client reads out of the body of a refusal. -/
def envelope (words : String) (status : Nat) : Json :=
  .object [("error", .object [("msg", .string words), ("status", .number (.whole status))])]

theorem status_cases (problem : Problem) : problem.status = 400 ∨ problem.status = 413 := by
  cases problem with
  | badRequest | malformedBody | malformedQuery => exact .inl rfl
  | payloadTooLarge => exact .inr rfl

/-- The digits of a status are read up to what ends them. -/
theorem readsBack_status (problem : Problem) (depth : Nat) :
    ReadsBack depth (.number (.whole problem.status)) := by
  intro rest hrest
  have hfour : Json.bytesOf (Json.render (.number (.whole (400 : Nat)))) = [0x34, 0x30, 0x30] := by
    decide
  have hthirteen : Json.bytesOf (Json.render (.number (.whole (413 : Nat)))) =
      [0x34, 0x31, 0x33] := by decide
  rcases problem.status_cases with hstatus | hstatus <;> rw [hstatus]
  · rw [hfour]
    cases hrest <;> cases depth <;> rfl
  · rw [hthirteen]
    cases hrest <;> cases depth <;> rfl

/-- Two open brackets are enough to read a problem. -/
theorem readValue_toJson (problem : Problem) (depth : Nat) :
    Json.readValue (depth + 1 + 1) (Json.bytesOf problem.toJson.render ++ []) =
      .ok (problem.toJson, []) := by
  have hvalues : ∀ f ∈ [("msg", Json.string problem.message),
      ("status", .number (.whole problem.status))], ReadsBack depth f.2 := by
    rintro f (_ | ⟨_, _ | ⟨_, hf⟩⟩)
    · exact Json.readsBack_string depth problem.message
    · exact readsBack_status problem depth
    · nomatch hf
  have herror : ∀ f ∈ [("error", Json.object [("msg", .string problem.message),
      ("status", .number (.whole problem.status))])], ReadsBack (depth + 1) f.2 := by
    rintro f (_ | ⟨_, hf⟩) rest _
    · exact Json.readValue_printed hvalues (show ["msg", "status"].Nodup by decide)
    · nomatch hf
  exact Json.readValue_printed herror (show ["error"].Nodup by decide)

/-- The body of a refusal is read as JSON. -/
theorem parseBytes_body (problem : Problem) :
    Json.parseBytes problem.response.body =
      .ok (envelope problem.message problem.response.status) := by
  have hbody : problem.response.body = Json.bytesOf problem.toJson.render ++ [] := by
    rw [List.append_nil, ← Json.encode_text_eq, response, Response.ofText]
  have hdepth : Json.maxDepth = 125 + 1 + 1 := rfl
  have hread := readValue_toJson problem 125
  rw [← hdepth, ← hbody] at hread
  rw [Json.parseBytes, Json.readAll_eq_ok_iff]
  exact ⟨[], hread, fun _ h => nomatch h⟩

/-- **The body of a refusal tells what it is for.** Read as JSON it is the words for the problem with
the status of the answer. And two violations have equal bodies only if they are the same violation,
of the same name. -/
theorem body_tells_rejection :
    (∀ problem : Problem, Json.parseBytes problem.response.body =
      .ok (envelope problem.message problem.response.status)) ∧
    ∀ rejection other : Check.Rejection,
      (ofRejection rejection).response.body = (ofRejection other).response.body ↔
        rejection = other := by
  refine ⟨parseBytes_body, fun rejection other => ⟨fun hbody => ?_, fun h => h ▸ rfl⟩⟩
  have hread := parseBytes_body (ofRejection rejection)
  rw [hbody, parseBytes_body] at hread
  have hwords : (ofRejection other).message = (ofRejection rejection).message := by
    have henvelope := Except.ok.inj hread
    unfold envelope at henvelope
    simp only [Json.object.injEq, List.cons.injEq, Prod.mk.injEq, Json.string.injEq] at henvelope
    exact henvelope.1.2.1.2
  exact Check.Rejection.message_inj hwords.symm

end Gatehouse.Http.Problem
