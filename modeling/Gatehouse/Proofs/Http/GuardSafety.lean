import Gatehouse.Http.Guard
import Gatehouse.Proofs.Text.Unsigned
/-!
What gets past a guard.

A guard hands a request on, as it is, or answers it alone. Which of the two, and with what status,
is said here by the request:

    handed on  ↔  the declared length fits, the body fits, the body is read, the check accepts
    else 413   ↔  the declared length or the body does not fit
    else 400                                                              (wrap_safe)

The declared length is not trusted: it can have a request refused, and nothing more. A body over
the limit is refused whatever length is declared for it, and two requests that differ in their
declared lengths alone, both within the limit, have the same answer.
-/

namespace Gatehouse.Http

/-! ## What a request declares -/

/-- A header value is a number of 64 bits: digits, perhaps with a plus sign before them. -/
def DenotesLength (value : List UInt8) (n : Nat) : Prop :=
  ∃ text, value = Utf8.encode text ∧ Ascii.Denotes text.toList n ∧ n ≤ maxDeclaredLength

/-- The headers are the same, apart from those for a length. -/
def Headers.SameButLength (headers headers' : Headers) : Prop :=
  headers.filter (fun header => header.1 ≠ "content-length") =
    headers'.filter (fun header => header.1 ≠ "content-length")

theorem Headers.SameButLength.symm {headers headers' : Headers}
    (h : headers.SameButLength headers') : headers'.SameButLength headers :=
  Eq.symm h

namespace Guard

/-- The first length header is missing, or it is no number, or it is within the limit. -/
def DeclaredFits (guard : Guard) (headers : Headers) : Prop :=
  ∀ value n, headers.first? "content-length" = some value → DenotesLength value n →
    n ≤ guard.bodyLimit

/-- Neither the declared length nor the body is over the limit. -/
def Fits (guard : Guard) (request : Request) : Prop :=
  guard.DeclaredFits request.headers ∧ request.body.length ≤ guard.bodyLimit

/-- The body can be read, and what is read of the request is accepted. -/
def Permits (guard : Guard) (request : Request) : Prop :=
  ∃ body, Body.parse request.headers request.body = .ok body ∧
    guard.table.check (descriptor request body) = .accepted

/-- The handler gets the request, unchanged, and its answer is the answer. -/
def HandsOn (guard : Guard) (request : Request) : Prop :=
  ∀ inner, guard.wrap inner request = inner request

/-- The answer is the response, whatever the handler would do. -/
def Refuses (guard : Guard) (request : Request) (response : Response) : Prop :=
  ∀ inner, guard.wrap inner request = response

/-! ## Lemmas: the declared length -/

theorem isVisible_of_bounds {b : UInt8} (h : 43 ≤ b.toNat ∧ b.toNat ≤ 57) :
    Headers.isVisible b = true := by
  unfold Headers.isVisible
  have hlow : 0x20 ≤ b.toNat := by omega
  have hhigh : b.toNat < 0x7F := by omega
  simp [hlow, hhigh]

theorem lt_of_isVisible {b : UInt8} (h : Headers.isVisible b = true) : b.toNat < 0x80 := by
  unfold Headers.isVisible at h
  simp only [Bool.or_eq_true, Bool.and_eq_true, decide_eq_true_eq, beq_iff_eq] at h
  omega

/-- The bytes of a number can be seen. -/
theorem all_isVisible_encode {text : String} {n : Nat} (h : Ascii.Denotes text.toList n) :
    (Utf8.encode text).all Headers.isVisible = true := by
  rw [Utf8.encode_of_ascii h.ascii, List.all_eq_true]
  intro b hb
  obtain ⟨c, hc, rfl⟩ := List.mem_map.mp hb
  have hbounds := h.mem_bounds hc
  apply isVisible_of_bounds
  rw [UInt8.toNat_ofNat']
  omega

theorem text?_eq_some_iff {headers : Headers} {name text : String} :
    headers.text? name = some text ↔ ∃ value, headers.first? name = some value ∧
      value.all Headers.isVisible = true ∧ Utf8.decode? value = some text := by
  unfold Headers.text?
  cases headers.first? name with
  | none => simp
  | some value => simp

/-- A length is declared iff the first length header is a number. -/
theorem contentLength?_eq_some_iff {headers : Headers} {n : Nat} :
    headers.contentLength? = some n ↔
      ∃ value, headers.first? "content-length" = some value ∧ DenotesLength value n := by
  constructor
  · intro h
    unfold Headers.contentLength? at h
    cases htext : headers.text? "content-length" with
    | none =>
      rw [htext] at h
      cases h
    | some text =>
      rw [htext] at h
      obtain ⟨hdenotes, hle⟩ := Ascii.unsigned?_eq_some_iff.mp h
      obtain ⟨value, hvalue, hvisible, hdecode⟩ := text?_eq_some_iff.mp htext
      have hascii : ∀ b ∈ value, b.toNat < 0x80 := fun b hb =>
        lt_of_isVisible (List.all_eq_true.mp hvisible b hb)
      exact ⟨value, hvalue, text, (Utf8.encode_of_decode?_ascii hascii hdecode).symm, hdenotes, hle⟩
  · rintro ⟨value, hvalue, text, rfl, hdenotes, hle⟩
    have htext : headers.text? "content-length" = some text :=
      text?_eq_some_iff.mpr
        ⟨_, hvalue, all_isVisible_encode hdenotes, Utf8.decode?_encode _⟩
    unfold Headers.contentLength?
    rw [htext]
    exact Ascii.unsigned?_eq_some_iff.mpr ⟨hdenotes, hle⟩

theorem declaresTooMuch_eq_false_iff {guard : Guard} {headers : Headers} :
    guard.declaresTooMuch headers = false ↔ guard.DeclaredFits headers := by
  have hfits : guard.DeclaredFits headers ↔
      ∀ n, headers.contentLength? = some n → n ≤ guard.bodyLimit := by
    simp only [contentLength?_eq_some_iff]
    constructor
    · rintro h n ⟨value, hvalue, hn⟩
      exact h value n hvalue hn
    · intro h value n hvalue hn
      exact h n ⟨value, hvalue, hn⟩
  rw [hfits]
  unfold declaresTooMuch
  cases headers.contentLength? with
  | none => simp
  | some n => simp

/-- Where no length is declared, only the body has to fit. -/
theorem fits_of_no_length {guard : Guard} {request : Request}
    (h : request.headers.first? "content-length" = none)
    (hbody : request.body.length ≤ guard.bodyLimit) : guard.Fits request := by
  refine ⟨fun value n hvalue _ => ?_, hbody⟩
  rw [h] at hvalue
  cases hvalue

/-! ## Lemmas: one request -/

/-- All that is not decoded is a malformed body. -/
theorem malformed_of_decode {mediaType : MediaType} {bytes : List UInt8} {problem : Problem}
    (h : Body.decode mediaType bytes = .error problem) : ∃ text, problem = .malformedBody text := by
  cases mediaType with
  | json =>
    simp only [Body.decode] at h
    split at h
    · exact ⟨_, (Except.error.inj h).symm⟩
    · cases h
  | form =>
    simp only [Body.decode] at h
    split at h
    · exact ⟨_, (Except.error.inj h).symm⟩
    · cases h
  | other => cases h

/-- Bytes are read by the media type. -/
theorem parse_of_ne_nil (headers : Headers) {bytes : List UInt8} (h : bytes ≠ []) :
    Body.parse headers bytes = (Body.decode (.ofHeaders headers) bytes).map some := by
  unfold Body.parse
  rw [if_neg (by simpa using h)]

theorem malformed_of_parse {headers : Headers} {bytes : List UInt8} {problem : Problem}
    (h : Body.parse headers bytes = .error problem) : ∃ text, problem = .malformedBody text := by
  by_cases hne : bytes = []
  · rw [hne] at h
    cases h
  rw [parse_of_ne_nil headers hne] at h
  cases hdecode : Body.decode (.ofHeaders headers) bytes with
  | ok value =>
    rw [hdecode] at h
    cases h
  | error other =>
    rw [hdecode] at h
    obtain rfl : other = problem := Except.error.inj h
    exact malformed_of_decode hdecode

/-- Why a request that fits is refused. -/
inductive Objects (guard : Guard) (request : Request) : Problem → Prop
  | unreadable {problem : Problem} : Body.parse request.headers request.body = .error problem →
      Objects guard request problem
  | rejected {body : Option Json} {rejection : Check.Rejection} :
      Body.parse request.headers request.body = .ok body →
      guard.table.check (descriptor request body) = .rejected rejection →
      Objects guard request (.ofRejection rejection)

theorem Objects.status {guard : Guard} {request : Request} {problem : Problem}
    (h : guard.Objects request problem) : problem.status = 400 := by
  cases h with
  | unreadable hparse =>
    obtain ⟨text, rfl⟩ := malformed_of_parse hparse
    rfl
  | rejected hparse hcheck => rfl

theorem Objects.not_permits {guard : Guard} {request : Request} {problem : Problem}
    (h : guard.Objects request problem) : ¬guard.Permits request := by
  rintro ⟨body, hbody, haccepted⟩
  cases h with
  | unreadable hparse =>
    rw [hbody] at hparse
    cases hparse
  | rejected hparse hcheck =>
    obtain rfl := Except.ok.inj (hbody.symm.trans hparse)
    rw [haccepted] at hcheck
    cases hcheck

theorem handOn_of_not_fits {guard : Guard} {request : Request} (h : ¬guard.Fits request) :
    guard.handOn request = .error (.payloadTooLarge guard.bodyLimit) := by
  unfold handOn
  by_cases hdeclared : guard.declaresTooMuch request.headers = true
  · rw [if_pos hdeclared]
  · have hbody : request.body.length > guard.bodyLimit := by
      have hfits := declaresTooMuch_eq_false_iff.mp (Bool.eq_false_iff.mpr hdeclared)
      exact Nat.lt_of_not_le fun hle => h ⟨hfits, hle⟩
    rw [if_neg hdeclared, collect?, if_pos hbody]

/-- A request that fits is judged by its whole body, and handed on with the same body. -/
theorem handOn_of_fits {guard : Guard} {request : Request} (h : guard.Fits request) :
    guard.handOn request =
      match Body.parse request.headers request.body with
      | .error problem => .error problem
      | .ok body =>
        match guard.table.check (descriptor request body) with
        | .accepted => .ok request
        | .rejected rejection => .error (.ofRejection rejection) := by
  have hdeclared : guard.declaresTooMuch request.headers = false :=
    declaresTooMuch_eq_false_iff.mpr h.1
  have hcollect : guard.collect? request.body = some request.body := by
    unfold collect?
    rw [if_neg (Nat.not_lt.mpr h.2)]
  unfold handOn
  cases hparse : Body.parse request.headers request.body with
  | error problem => simp only [hdeclared, hcollect, hparse, Bool.false_eq_true, if_false]
  | ok body =>
    cases hcheck : guard.table.check (descriptor request body) with
    | accepted => simp only [hdeclared, hcollect, hparse, hcheck, Bool.false_eq_true, if_false]
    | rejected rejection =>
      simp only [hdeclared, hcollect, hparse, hcheck, Bool.false_eq_true, if_false]

/-- All that can become of a request. -/
theorem handOn_cases (guard : Guard) (request : Request) :
    (guard.Fits request ∧ guard.Permits request ∧ guard.handOn request = .ok request) ∨
    (¬guard.Fits request ∧
      guard.handOn request = .error (.payloadTooLarge guard.bodyLimit)) ∨
    (guard.Fits request ∧ ∃ problem, guard.Objects request problem ∧
      guard.handOn request = .error problem) := by
  by_cases hfits : guard.Fits request
  · rw [handOn_of_fits hfits]
    cases hparse : Body.parse request.headers request.body with
    | error problem => exact .inr (.inr ⟨hfits, problem, .unreadable hparse, rfl⟩)
    | ok body =>
      simp only
      cases hcheck : guard.table.check (descriptor request body) with
      | accepted => exact .inl ⟨hfits, ⟨body, hparse, hcheck⟩, rfl⟩
      | rejected rejection =>
        exact .inr (.inr ⟨hfits, _, .rejected hparse hcheck, rfl⟩)
  · exact .inr (.inl ⟨hfits, handOn_of_not_fits hfits⟩)

/-! ## Lemmas: the answer -/

theorem handsOn_of_ok {guard : Guard} {request : Request}
    (h : guard.handOn request = .ok request) : guard.HandsOn request := by
  intro inner
  unfold wrap
  rw [h]

theorem refuses_of_error {guard : Guard} {request : Request} {problem : Problem}
    (h : guard.handOn request = .error problem) : guard.Refuses request problem.response := by
  intro inner
  unfold wrap
  rw [h]

/-- A request that is refused is not handed on: there is a handler with another answer. -/
theorem Refuses.not_handsOn {guard : Guard} {request : Request} {response : Response}
    (h : guard.Refuses request response) : ¬guard.HandsOn request := by
  intro hhands
  let other : Response := ⟨response.status + 1, [], []⟩
  have heq : other = response := (hhands fun _ => other).symm.trans (h fun _ => other)
  have hstatus : response.status + 1 = response.status := congrArg Response.status heq
  omega

/-- There is one answer of a guard alone. -/
theorem Refuses.unique {guard : Guard} {request : Request} {response response' : Response}
    (h : guard.Refuses request response) (h' : guard.Refuses request response') :
    response = response' :=
  (h fun _ => response).symm.trans (h' fun _ => response)

theorem handsOn_iff {guard : Guard} {request : Request} :
    guard.HandsOn request ↔ guard.Fits request ∧ guard.Permits request := by
  rcases handOn_cases guard request with
    ⟨hfits, hpermits, hok⟩ | ⟨hnot, herror⟩ | ⟨-, problem, hobjects, herror⟩
  · exact iff_of_true (handsOn_of_ok hok) ⟨hfits, hpermits⟩
  · exact iff_of_false (refuses_of_error herror).not_handsOn fun h => hnot h.1
  · exact iff_of_false (refuses_of_error herror).not_handsOn fun h => hobjects.not_permits h.2

/-! ## Lemmas: other lengths -/

theorem first?_filter (headers : Headers) {name other : String} (h : name ≠ other) :
    Headers.first? (headers.filter fun header => header.1 ≠ other) name =
      headers.first? name := by
  unfold Headers.first?
  induction headers with
  | nil => rfl
  | cons header rest ih =>
    obtain ⟨key, value⟩ := header
    by_cases hkey : key = other
    · have hne : (name == key) = false := by
        rw [hkey]
        exact beq_false_of_ne h
      rw [List.filter_cons_of_neg (by simp [hkey]), ih, List.lookup_cons, hne]
    · rw [List.filter_cons_of_pos (by simp [hkey]), List.lookup_cons, List.lookup_cons, ih]

/-- A body is read in the same way, whatever length is declared for it. -/
theorem parse_congr {headers headers' : Headers} (h : headers.SameButLength headers')
    (bytes : List UInt8) : Body.parse headers bytes = Body.parse headers' bytes := by
  have hname : "content-type" ≠ "content-length" := by decide
  have hfirst : headers.first? "content-type" = headers'.first? "content-type" := by
    rw [← first?_filter headers hname, ← first?_filter headers' hname, h]
  have htype : MediaType.ofHeaders headers = MediaType.ofHeaders headers' := by
    unfold MediaType.ofHeaders Headers.text?
    rw [hfirst]
  unfold Body.parse
  rw [htype]

variable {guard : Guard} {request : Request} {headers headers' : Headers}

/-- What is checked is not in the headers. -/
theorem descriptor_headers (request : Request) (headers : Headers) (body : Option Json) :
    descriptor { request with headers } body = descriptor request body := rfl

theorem permits_congr (h : headers.SameButLength headers') :
    guard.Permits { request with headers } ↔
      guard.Permits { request with headers := headers' } := by
  unfold Permits
  simp only [parse_congr h, descriptor_headers]

/-- The answer of a guard alone does not depend on the length that is declared, as long as it is
the same for what fits. -/
theorem refuses_congr (h : headers.SameButLength headers')
    (hfits : guard.Fits { request with headers } ↔
      guard.Fits { request with headers := headers' }) {response : Response}
    (hrefuses : guard.Refuses { request with headers } response) :
    guard.Refuses { request with headers := headers' } response := by
  rcases handOn_cases guard { request with headers } with
    ⟨-, -, hok⟩ | ⟨hnot, herror⟩ | ⟨hfit, problem, hobjects, herror⟩
  · exact absurd (handsOn_of_ok hok) hrefuses.not_handsOn
  · obtain rfl := hrefuses.unique (refuses_of_error herror)
    exact refuses_of_error (handOn_of_not_fits fun hfit => hnot (hfits.mpr hfit))
  · obtain rfl := hrefuses.unique (refuses_of_error herror)
    apply refuses_of_error
    rw [handOn_of_fits (hfits.mp hfit), ← parse_congr h]
    cases hobjects with
    | unreadable hparse => rw [hparse]
    | rejected hparse hcheck =>
      rw [descriptor_headers] at hcheck
      simp only [hparse, descriptor_headers, hcheck]

/-! ## The theorem -/

/-- **A guard is safe.** It hands a request on, as it is, iff the declared length and the body
fit and the request is permitted. Else it answers alone: 413 iff something does not fit, whatever
else is wrong, and 400 iff all fits. So no headers get a body over the limit past it, and of two
lengths that fit neither makes a difference. -/
theorem wrap_safe (guard : Guard) (request : Request) :
    (guard.HandsOn request ↔
      guard.DeclaredFits request.headers ∧ request.body.length ≤ guard.bodyLimit ∧
        guard.Permits request) ∧
    (¬guard.HandsOn request → ∃ response, guard.Refuses request response ∧
      (response.status = 413 ↔
        ¬guard.DeclaredFits request.headers ∨ ¬request.body.length ≤ guard.bodyLimit) ∧
      (response.status = 400 ↔
        guard.DeclaredFits request.headers ∧ request.body.length ≤ guard.bodyLimit)) ∧
    (guard.bodyLimit < request.body.length →
      ∀ headers, ¬guard.HandsOn { request with headers }) ∧
    (∀ headers, request.headers.SameButLength headers → guard.DeclaredFits request.headers →
      guard.DeclaredFits headers →
      (guard.HandsOn request ↔ guard.HandsOn { request with headers }) ∧
      ∀ response, guard.Refuses request response ↔
        guard.Refuses { request with headers } response) := by
  refine ⟨?_, ?_, ?_, ?_⟩
  · rw [handsOn_iff, Fits, and_assoc]
  · intro hnot
    rcases handOn_cases guard request with
      ⟨-, -, hok⟩ | ⟨hfits, herror⟩ | ⟨hfits, problem, hobjects, herror⟩
    · exact absurd (handsOn_of_ok hok) hnot
    · have hstatus : (Problem.payloadTooLarge guard.bodyLimit).response.status = 413 := rfl
      refine ⟨_, refuses_of_error herror,
        iff_of_true hstatus (Classical.not_and_iff_not_or_not.mp hfits), iff_of_false ?_ hfits⟩
      omega
    · have hstatus : problem.response.status = 400 := hobjects.status
      refine ⟨_, refuses_of_error herror, iff_of_false ?_ ?_, iff_of_true hstatus hfits⟩
      · omega
      · exact fun h => Classical.not_and_iff_not_or_not.mpr h hfits
  · intro hlong headers hhands
    have hfits := (handsOn_iff.mp hhands).1.2
    exact absurd hlong (Nat.not_lt.mpr hfits)
  · intro headers hsame hdeclared hdeclared'
    have hfits : guard.Fits request ↔ guard.Fits { request with headers } := by
      unfold Fits
      simp only [hdeclared, hdeclared']
    refine ⟨?_, fun response => ⟨refuses_congr hsame hfits, refuses_congr hsame.symm hfits.symm⟩⟩
    rw [handsOn_iff, handsOn_iff, hfits]
    exact and_congr_right fun _ => permits_congr hsame

end Guard

end Gatehouse.Http
