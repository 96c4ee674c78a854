import Gatehouse.Command.Run
import Gatehouse.Proofs.Http.FormWriting
import Gatehouse.Proofs.Http.GuardSafety
/-!
The check from the command line agrees with the guard.

The command line gives the query as arguments `NAME=VALUE`, which are cut and not decoded, and the
body as a text, which is read before anything is checked. A request has the query as a form, in any
of the ways to write one, which is cut and decoded, and the body as bytes. If both have the same
pairs and the same JSON text, then

    accepted from the command line    ↔  handed on by the guard
    rejected, and why                 ↔  refused with the words for that
    failed, as the body is no JSON    ↔  refused as malformed, with the same words

and the command line does not fail in another way (check_iff_handOn).
-/

namespace Gatehouse.Command

open Check (Outcome Rejection)
open Http

/-! ## Arguments and requests -/

/-- The argument that gives a pair. -/
def queryArgument (pair : String × String) : String :=
  pair.1 ++ "=" ++ pair.2

/-- A request has a form of the pairs as its query and a JSON text as its body; without a text the
body is empty. -/
structure Sends (request : Request) (pairs : List (String × String)) (body : Option String) :
    Prop where
  query : Form.Writes pairs (Utf8.encode (request.uri.query.getD ""))
  contentType : request.headers.first? "content-type" = some (Utf8.encode "application/json")
  body : request.body = Utf8.encode (body.getD "")

/-- The outcome of a check and what becomes of a request agree. -/
inductive Agrees (request : Request) : Except Error Outcome → Except Problem Request → Prop
  | accepted : Agrees request (.ok .accepted) (.ok request)
  | rejected (rejection : Rejection) :
      Agrees request (.ok (.rejected rejection)) (.error (.ofRejection rejection))
  | malformed (e : Json.Error) :
      Agrees request (.error (.bodyArgument e)) (.error (.malformedBody e.message))

/-! ## The query -/

theorem toList_queryArgument (pair : String × String) :
    (queryArgument pair).toList = pair.1.toList ++ '=' :: pair.2.toList := by
  unfold queryArgument
  rw [String.toList_append, String.toList_append, List.append_assoc]
  rfl

theorem pairOf_queryArgument {pair : String × String} (h : '=' ∉ pair.1.toList) :
    pairOf (queryArgument pair) = .ok pair := by
  unfold pairOf
  rw [toList_queryArgument, takeWhile_separator h, dropWhile_separator h]
  simp only [String.ofList_toList]

/-- Arguments are cut into their pairs, unless a name has an equals sign. -/
theorem mapM_pairOf {pairs : List (String × String)}
    (h : ∀ pair ∈ pairs, '=' ∉ pair.1.toList) :
    (pairs.map queryArgument).mapM pairOf = .ok pairs := by
  induction pairs with
  | nil => rfl
  | cons pair rest ih =>
    rw [List.map_cons, List.mapM_cons, pairOf_queryArgument (h pair List.mem_cons_self),
      ih fun other hother => h other (List.mem_cons_of_mem _ hother)]
    rfl

/-! ## The body -/

theorem ofHeaders_json {headers : Headers}
    (h : headers.first? "content-type" = some (Utf8.encode "application/json")) :
    MediaType.ofHeaders headers = .json := by
  have htext : headers.text? "content-type" = some "application/json" :=
    Guard.text?_eq_some_iff.mpr ⟨_, h, by decide, by decide⟩
  unfold MediaType.ofHeaders
  rw [htext]
  decide

/-- A text that is not empty has bytes. -/
theorem encode_ne_nil {text : String} (h : text ≠ "") : Utf8.encode text ≠ [] := by
  intro hnil
  exact h (Utf8.encode_inj.mp hnil)

/-- A JSON text has the same value, or the same fault, as an argument and as a body. -/
theorem bodyOf_cases {request : Request} {pairs : List (String × String)} {body : Option String}
    (hsends : Sends request pairs body) (hbody : body ≠ some "") :
    (∃ value, bodyOf body = .ok value ∧
      Body.parse request.headers request.body = .ok value) ∨
    (∃ e, bodyOf body = .error (.bodyArgument e) ∧
      Body.parse request.headers request.body = .error (.malformedBody e.message)) := by
  rw [hsends.body]
  cases body with
  | none => exact .inl ⟨none, rfl, rfl⟩
  | some text =>
    have hne : Utf8.encode text ≠ [] := encode_ne_nil fun h => hbody (congrArg some h)
    rw [Option.getD_some, Guard.parse_of_ne_nil request.headers hne,
      ofHeaders_json hsends.contentType]
    cases hjson : Json.parse text with
    | error e =>
      have hbytes : Json.parseBytes (Utf8.encode text) = .error e := hjson
      refine .inr ⟨e, ?_, ?_⟩
      · simp only [bodyOf, hjson]
      · simp only [Body.decode, hbytes, Except.map]
    | ok value =>
      have hbytes : Json.parseBytes (Utf8.encode text) = .ok value := hjson
      refine .inl ⟨some value, ?_, ?_⟩
      · simp only [bodyOf, hjson]
      · simp only [Body.decode, hbytes, Except.map]

/-! ## The check -/

/-- The outcome of a check, once the body is read. -/
theorem check_of_bodyOf {table : Rules.Table} {method path : String}
    {pairs : List (String × String)} {body : Option String}
    (hnames : ∀ pair ∈ pairs, '=' ∉ pair.1.toList) :
    check table method path (pairs.map queryArgument) body =
      (bodyOf body).map fun value => table.check ⟨method, "", path, Query.ofPairs pairs, value⟩ := by
  unfold check descriptorOf
  rw [mapM_pairOf hnames]
  cases bodyOf body with
  | error e => rfl
  | ok value => rfl

variable {guard : Guard} {request : Request} {pairs : List (String × String)}
  {body : Option String}

/-- The check of what a request sends agrees with what becomes of the request. -/
theorem check_agrees (hnames : ∀ pair ∈ pairs, '=' ∉ pair.1.toList)
    (hsends : Sends request pairs body) (hbody : body ≠ some "") (hfits : guard.Fits request) :
    Agrees request
      (check guard.table request.method request.received.path (pairs.map queryArgument) body)
      (guard.handOn request) := by
  rw [check_of_bodyOf hnames, Guard.handOn_of_fits hfits]
  rcases bodyOf_cases hsends hbody with ⟨value, hvalue, hparse⟩ | ⟨e, he, hparse⟩
  · rw [hvalue, hparse]
    simp only [Except.map]
    have hdescriptor : Guard.descriptor request value =
        ⟨request.method, "", request.received.path, Query.ofPairs pairs, value⟩ := by
      unfold Guard.descriptor
      rw [Form.ofUri_of_writes hsends.query]
    rw [hdescriptor]
    cases guard.table.check
      ⟨request.method, "", request.received.path, Query.ofPairs pairs, value⟩ with
    | accepted => exact .accepted
    | rejected rejection => exact .rejected rejection
  · rw [he, hparse]
    exact .malformed e

/-- **The command line and the guard agree.** For the arguments of pairs, none of whose names has
an equals sign, and a request within the limits that sends the same pairs and the same text: it is
handed on iff the check accepts; it is refused with the words for a violation iff the check
rejects that violation; and its body is malformed, with the words for a fault, iff the check fails
with that fault. The check fails in no other way. -/
theorem check_iff_handOn (guard : Guard) (request : Request) (pairs : List (String × String))
    (body : Option String) (hnames : ∀ pair ∈ pairs, '=' ∉ pair.1.toList) (hbody : body ≠ some "")
    (hsends : Sends request pairs body) (hfits : guard.Fits request) :
    let offline :=
      check guard.table request.method request.received.path (pairs.map queryArgument) body
    (offline = .ok .accepted ↔ guard.handOn request = .ok request) ∧
    (∀ rejection : Rejection, offline = .ok (.rejected rejection) ↔
      guard.handOn request = .error (.badRequest rejection.message)) ∧
    (∀ words, (∃ e, offline = .error (.bodyArgument e) ∧ e.message = words) ↔
      guard.handOn request = .error (.malformedBody words)) ∧
    (∀ e, offline = .error e → e.code = .argument ∧ ∃ fault, e = .bodyArgument fault) := by
  intro offline
  have hagrees : Agrees request offline (guard.handOn request) :=
    check_agrees hnames hsends hbody hfits
  generalize offline = outcome at hagrees
  generalize guard.handOn request = answer at hagrees
  cases hagrees with
  | accepted => simp
  | rejected found =>
    refine ⟨by simp, fun rejection => ?_, by simp [Problem.ofRejection], by simp⟩
    constructor
    · intro h
      obtain rfl := Outcome.rejected.inj (Except.ok.inj h)
      rfl
    · intro h
      rw [Rejection.message_inj (Problem.badRequest.inj (Except.error.inj h))]
  | malformed fault =>
    refine ⟨by simp, by simp, fun words => ?_, ?_⟩
    · simp
    · rintro e h
      obtain rfl := Except.error.inj h
      exact ⟨rfl, fault, rfl⟩

/-- A guard that lets bodies of 16 bytes past, with rules for one method on one path. -/
def pageGuard : Guard :=
  ⟨Rules.Table.empty.insert "/p" "put" ⟨[.query "page" .integer, .body (.object [] [])]⟩, 16⟩

/-- A request for that path and method, with two pairs in its query and an object as its body. -/
def pageRequest : Request :=
  let target : Uri := ⟨none, none, "/p", some (Form.text [("page", "7"), ("tag", "a b")])⟩
  ⟨"PUT", target, target, [("content-type", Utf8.encode "application/json")],
    Utf8.encode "\x7b\x7d"⟩

/-- No rule is for the second pair: the check rejects its name, so the guard refuses the request
with the words for that. -/
theorem handOn_pageRequest :
    pageGuard.handOn pageRequest =
      .error (.badRequest "`tag` is not a valid query parameter") := by
  have hnames : ∀ pair ∈ [("page", "7"), ("tag", "a b")], '=' ∉ pair.1.toList := by decide
  have hsends : Sends pageRequest [("page", "7"), ("tag", "a b")] (some "\x7b\x7d") :=
    ⟨Form.writes_text _, rfl, rfl⟩
  have hfits : pageGuard.Fits pageRequest := Guard.fits_of_no_length (by decide) (by decide)
  have hcheck : check pageGuard.table "PUT" "/p" ["page=7", "tag=a b"] (some "\x7b\x7d") =
      .ok (.rejected (.unknownQueryParameter "tag")) := rfl
  exact ((check_iff_handOn pageGuard pageRequest _ _ hnames (by decide) hsends hfits).2.1 _).mp
    hcheck

end Gatehouse.Command
