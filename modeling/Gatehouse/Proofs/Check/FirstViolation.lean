import Gatehouse.Check.Violation
/-!
The first violation decides.

`FirstViolation route request rejection` says, by places in the query and in the list of
parameters alone, which violation of a route is the first one of a request.

    table.get? path method = none  →  check accepts, whatever the query and the body
    table.get? path method = some route  →
      check rejects with `rejection`  ↔  FirstViolation route request rejection
      check accepts  ↔  there is no first violation              (check_firstViolation)

The rules that count are described by `Route.First`: the first parameter of its kind, even where
it has no schema and a later one of its kind has one.
-/

namespace Gatehouse.Rules

open Check (Descriptor Rejection Outcome)

/-! ## The rules that count -/

/-- The parameter is the first of a route with a property. -/
def Route.First (route : Route) (ofKind : Parameter → Prop) (p : Parameter) : Prop :=
  ∃ before after, route.parameters = before ++ p :: after ∧ ofKind p ∧ ∀ q ∈ before, ¬ofKind q

/-- The parameter is in the query and has the name. -/
def Parameter.IsQuery (name : String) (p : Parameter) : Prop :=
  p.location = .query ∧ p.name = name

/-- The parameter is a body. -/
def Parameter.IsBody (p : Parameter) : Prop :=
  p.location = .body

/-- Some parameter in the query has the name. -/
def Route.Declares (route : Route) (name : String) : Prop :=
  ∃ p ∈ route.parameters, p.IsQuery name

/-- The first parameter with the name of an entry has a schema, and the value satisfies it. -/
def Route.Passes (route : Route) (entry : String × Json) : Prop :=
  ∃ p schema, route.First (Parameter.IsQuery entry.1) p ∧ p.schema = some schema ∧
    schema.accepts entry.2 = true

/-! ## The first violation -/

/-- The bodies that count as no content. -/
inductive NoContent : Option Json → Prop
  | missing : NoContent none
  | null : NoContent (some .null)
  | object : NoContent (some (.object []))
  | array : NoContent (some (.array []))
  | string : NoContent (some (.string ""))

/-- The value that a body schema judges: `{}` for a body that is missing or `null`, else the
body. -/
inductive Judged : Option Json → Json → Prop
  | missing : Judged none (.object [])
  | null : Judged (some .null) (.object [])
  | body {value : Json} : value ≠ .null → Judged (some value) value

/-- The rejection tells the first violation of a request: all entries before the blamed one pass,
and all entries pass where the body is blamed. -/
inductive FirstViolation (route : Route) (request : Descriptor) : Rejection → Prop
  | unknownQueryParameter {before after : List (String × Json)} {name : String} {value : Json} :
      request.query = before ++ (name, value) :: after → (∀ e ∈ before, route.Passes e) →
      ¬route.Declares name → FirstViolation route request (.unknownQueryParameter name)
  | invalidQueryParameterType {before after : List (String × Json)} {name : String} {value : Json}
      {p : Parameter} :
      request.query = before ++ (name, value) :: after → (∀ e ∈ before, route.Passes e) →
      route.First (Parameter.IsQuery name) p →
      (p.schema = none ∨ ∃ schema, p.schema = some schema ∧ schema.accepts value = false) →
      FirstViolation route request (.invalidQueryParameterType name)
  | bodyNotPermitted :
      (∀ e ∈ request.query, route.Passes e) →
      (∀ p, route.First Parameter.IsBody p → p.schema = none) → ¬NoContent request.body →
      FirstViolation route request .bodyNotPermitted
  | invalidBody {p : Parameter} {schema : Schema} {value : Json} :
      (∀ e ∈ request.query, route.Passes e) → route.First Parameter.IsBody p →
      p.schema = some schema → Judged request.body value → schema.accepts value = false →
      FirstViolation route request .invalidBody

/-! ## Lemmas: looking up a rule -/

theorem Route.First.mem {route : Route} {ofKind : Parameter → Prop} {p : Parameter}
    (h : route.First ofKind p) : p ∈ route.parameters := by
  obtain ⟨before, after, hsplit, -⟩ := h
  rw [hsplit]
  exact List.mem_append_right _ List.mem_cons_self

/-- What a search finds is the first of its kind. -/
theorem Route.find?_eq_some_iff (route : Route) (test : Parameter → Bool)
    {ofKind : Parameter → Prop} (htest : ∀ p, test p = true ↔ ofKind p) (p : Parameter) :
    route.parameters.find? test = some p ↔ route.First ofKind p := by
  rw [List.find?_eq_some_iff_append]
  constructor
  · rintro ⟨hp, before, after, hsplit, hbefore⟩
    refine ⟨before, after, hsplit, (htest p).mp hp, fun q hq hkind => ?_⟩
    have hfalse := hbefore q hq
    rw [(htest q).mpr hkind] at hfalse
    cases hfalse
  · rintro ⟨before, after, hsplit, hp, hbefore⟩
    refine ⟨(htest p).mpr hp, before, after, hsplit, fun q hq => ?_⟩
    have hq' : test q ≠ true := fun h => hbefore q hq ((htest q).mp h)
    simpa using hq'

/-- A route has at most one first parameter of a kind. -/
theorem Route.First.unique {route : Route} {ofKind : Parameter → Prop} {p q : Parameter}
    (hp : route.First ofKind p) (hq : route.First ofKind q) : p = q := by
  classical
  have htest : ∀ r, decide (ofKind r) = true ↔ ofKind r := fun _ => decide_eq_true_iff
  have hp' := (Route.find?_eq_some_iff route _ htest p).mpr hp
  have hq' := (Route.find?_eq_some_iff route _ htest q).mpr hq
  rw [hp'] at hq'
  exact Option.some.inj hq'

theorem Route.query?_eq_find? (route : Route) (name : String) :
    route.query? name =
      route.parameters.find? fun p => decide (p.location = .query ∧ p.name = name) := by
  unfold Route.query? Route.queryParameters
  simp only [List.find?_filter, decide_eq_true_eq]

theorem Route.query?_eq_some_iff {route : Route} {name : String} {p : Parameter} :
    route.query? name = some p ↔ route.First (Parameter.IsQuery name) p := by
  unfold Route.query? Route.queryParameters
  rw [List.find?_filter]
  exact Route.find?_eq_some_iff route _ (fun q => by simp [Parameter.IsQuery]) p

theorem Route.query?_eq_none_iff {route : Route} {name : String} :
    route.query? name = none ↔ ¬route.Declares name := by
  unfold Route.query? Route.queryParameters
  rw [List.find?_filter, List.find?_eq_none]
  simp [Route.Declares, Parameter.IsQuery]

theorem Route.mem_queryNames_iff {route : Route} {name : String} :
    name ∈ route.queryNames ↔ route.Declares name := by
  simp [queryNames, queryParameters, Declares, Parameter.IsQuery, and_assoc]

/-- A declared name has a first parameter. -/
theorem Route.declares_iff_exists_first {route : Route} {name : String} :
    route.Declares name ↔ ∃ p, route.First (Parameter.IsQuery name) p := by
  constructor
  · intro h
    cases hq : route.query? name with
    | none => exact absurd h (Route.query?_eq_none_iff.mp hq)
    | some p => exact ⟨p, Route.query?_eq_some_iff.mp hq⟩
  · rintro ⟨p, hp⟩
    have hkind : p.IsQuery name := by
      obtain ⟨_, _, -, hkind, -⟩ := hp
      exact hkind
    exact ⟨p, hp.mem, hkind⟩

theorem Route.bodySchema_eq_some_iff {route : Route} {schema : Schema} :
    route.bodySchema = some schema ↔
      ∃ p, route.First Parameter.IsBody p ∧ p.schema = some schema := by
  unfold Route.bodySchema
  rw [Option.bind_eq_some_iff]
  have htest : ∀ p : Parameter, decide (p.location = .body) = true ↔ p.IsBody :=
    fun p => by simp [Parameter.IsBody]
  simp only [Route.find?_eq_some_iff route _ htest]

theorem Route.bodySchema_eq_none_iff {route : Route} :
    route.bodySchema = none ↔ ∀ p, route.First Parameter.IsBody p → p.schema = none := by
  constructor
  · intro h p hp
    cases hs : p.schema with
    | none => rfl
    | some schema =>
      rw [Route.bodySchema_eq_some_iff.mpr ⟨p, hp, hs⟩] at h
      cases h
  · intro h
    cases hs : route.bodySchema with
    | none => rfl
    | some schema =>
      obtain ⟨p, hp, hschema⟩ := Route.bodySchema_eq_some_iff.mp hs
      rw [h p hp] at hschema
      cases hschema

theorem noContent_iff {request : Descriptor} :
    request.hasBlankBody = true ↔ NoContent request.body := by
  unfold Descriptor.hasBlankBody
  constructor
  · intro h
    cases hb : request.body with
    | none => exact .missing
    | some value =>
      rw [hb] at h
      cases value with
      | null => exact .null
      | bool b => simp [Json.isBlank] at h
      | number n => simp [Json.isBlank] at h
      | string s =>
        obtain rfl : s = "" := by simpa [Json.isBlank] using h
        exact .string
      | array items =>
        obtain rfl : items = [] := by simpa [Json.isBlank] using h
        exact .array
      | object fields =>
        obtain rfl : fields = [] := by simpa [Json.isBlank] using h
        exact .object
  · intro h
    cases hb : request.body with
    | none => rfl
    | some value =>
      rw [hb] at h
      cases h <;> rfl

theorem judged_iff {request : Descriptor} {value : Json} :
    Judged request.body value ↔ request.effectiveBody = value := by
  unfold Descriptor.effectiveBody
  constructor
  · intro h
    cases hb : request.body with
    | none => rw [hb] at h; cases h; rfl
    | some body =>
      rw [hb] at h
      cases h with
      | null => rfl
      | body hne => split <;> simp_all
  · intro h
    split at h
    · next hb => rw [hb, ← h]; exact .missing
    · next hb => rw [hb, ← h]; exact .null
    · next body hne hb =>
      rw [hb, ← h]
      exact .body hne

/-! ## Lemmas: one entry, one query, one body -/

theorem Route.entryViolation?_eq_none_iff {route : Route} {entry : String × Json} :
    route.entryViolation? entry = none ↔ route.Passes entry := by
  unfold Route.entryViolation? Route.Passes
  constructor
  · intro h
    split at h
    · cases h
    · next p hp =>
      split at h
      · cases h
      · next schema hschema =>
        split at h
        · next haccepts =>
          exact ⟨p, schema, Route.query?_eq_some_iff.mp hp, hschema, haccepts⟩
        · cases h
  · rintro ⟨p, schema, hp, hschema, haccepts⟩
    rw [Route.query?_eq_some_iff.mpr hp]
    simp [hschema, haccepts]

/-- What an entry violates: its name is not declared, or the first rule for it has no schema, or
one that the value does not satisfy. -/
theorem Route.entryViolation?_eq_some_iff {route : Route} {entry : String × Json}
    {rejection : Rejection} :
    route.entryViolation? entry = some rejection ↔
      (rejection = .unknownQueryParameter entry.1 ∧ ¬route.Declares entry.1) ∨
      (rejection = .invalidQueryParameterType entry.1 ∧
        ∃ p, route.First (Parameter.IsQuery entry.1) p ∧
          (p.schema = none ∨ ∃ schema, p.schema = some schema ∧ schema.accepts entry.2 = false)) := by
  unfold Route.entryViolation?
  cases hq : route.query? entry.1 with
  | none =>
    have hnot : ¬route.Declares entry.1 := Route.query?_eq_none_iff.mp hq
    constructor
    · intro h
      exact .inl ⟨(Option.some.inj h).symm, hnot⟩
    · rintro (⟨rfl, -⟩ | ⟨-, p, hp, -⟩)
      · rfl
      · exact absurd (Route.declares_iff_exists_first.mpr ⟨p, hp⟩) hnot
  | some p =>
    have hp : route.First (Parameter.IsQuery entry.1) p := Route.query?_eq_some_iff.mp hq
    have hdeclared : route.Declares entry.1 := Route.declares_iff_exists_first.mpr ⟨p, hp⟩
    constructor
    · intro h
      right
      cases hs : p.schema with
      | none =>
        simp only [hs, Option.some.injEq] at h
        exact ⟨h.symm, p, hp, .inl hs⟩
      | some schema =>
        simp only [hs] at h
        split at h
        · cases h
        · next hnot =>
          exact ⟨(Option.some.inj h).symm, p, hp, .inr ⟨schema, hs, by simpa using hnot⟩⟩
    · rintro (⟨-, hnot⟩ | ⟨rfl, q, hq', hbad⟩)
      · exact absurd hdeclared hnot
      · obtain rfl := hp.unique hq'
        rcases hbad with hnone | ⟨schema, hschema, hfalse⟩
        · simp only [hnone]
        · simp [hschema, hfalse]

theorem Route.queryViolation?_eq_none_iff {route : Route} {query : List (String × Json)} :
    route.queryViolation? query = none ↔ ∀ e ∈ query, route.Passes e := by
  unfold Route.queryViolation?
  rw [List.findSome?_eq_none_iff]
  simp only [Route.entryViolation?_eq_none_iff]

theorem Route.queryViolation?_eq_some_iff {route : Route} {query : List (String × Json)}
    {rejection : Rejection} :
    route.queryViolation? query = some rejection ↔
      ∃ before entry after, query = before ++ entry :: after ∧ (∀ e ∈ before, route.Passes e) ∧
        route.entryViolation? entry = some rejection := by
  unfold Route.queryViolation?
  rw [List.findSome?_eq_some_iff]
  simp only [Route.entryViolation?_eq_none_iff]
  constructor
  · rintro ⟨before, entry, after, hsplit, hentry, hbefore⟩
    exact ⟨before, entry, after, hsplit, hbefore, hentry⟩
  · rintro ⟨before, entry, after, hsplit, hbefore, hentry⟩
    exact ⟨before, entry, after, hsplit, hentry, hbefore⟩

theorem Route.bodyViolation?_eq_some_iff {route : Route} {request : Descriptor}
    {rejection : Rejection} :
    route.bodyViolation? request = some rejection ↔
      (rejection = .bodyNotPermitted ∧ (∀ p, route.First Parameter.IsBody p → p.schema = none) ∧
        ¬NoContent request.body) ∨
      (rejection = .invalidBody ∧ ∃ p schema value, route.First Parameter.IsBody p ∧
        p.schema = some schema ∧ Judged request.body value ∧ schema.accepts value = false) := by
  unfold Route.bodyViolation?
  cases hs : route.bodySchema with
  | none =>
    have hnone := Route.bodySchema_eq_none_iff.mp hs
    constructor
    · intro h
      left
      simp only at h
      split at h
      · cases h
      · next hblank =>
        exact ⟨(Option.some.inj h).symm, hnone, fun hno => hblank (noContent_iff.mpr hno)⟩
    · rintro (⟨rfl, -, hno⟩ | ⟨-, p, schema, -, hp, hschema, -⟩)
      · have hblank : request.hasBlankBody ≠ true := fun hb => hno (noContent_iff.mp hb)
        simp [hblank]
      · rw [hnone p hp] at hschema
        cases hschema
  | some schema =>
    obtain ⟨p, hp, hschema⟩ := Route.bodySchema_eq_some_iff.mp hs
    constructor
    · intro h
      right
      simp only at h
      split at h
      · cases h
      · next hnot =>
        exact ⟨(Option.some.inj h).symm, p, schema, _, hp, hschema, judged_iff.mpr rfl,
          by simpa using hnot⟩
    · rintro (⟨-, hnone, -⟩ | ⟨rfl, q, schema', value, hq, hschema', hvalue, hfalse⟩)
      · rw [hnone p hp] at hschema
        cases hschema
      · obtain rfl := hp.unique hq
        obtain rfl : schema = schema' := Option.some.inj (hschema.symm.trans hschema')
        rw [judged_iff.mp hvalue]
        simp [hfalse]

/-- Of a request, the rules for a body look at the body alone. -/
theorem Route.bodyViolation?_congr {route : Route} {request request' : Descriptor}
    (h : request.body = request'.body) :
    route.bodyViolation? request = route.bodyViolation? request' := by
  unfold Route.bodyViolation? Descriptor.hasBlankBody Descriptor.effectiveBody
  rw [h]

/-! ## The first violation -/

/-- A violation comes from the query, or from the body behind a query that passes. -/
theorem Route.violation?_eq_some_iff {route : Route} {request : Descriptor}
    {rejection : Rejection} :
    route.violation? request = some rejection ↔
      route.queryViolation? request.query = some rejection ∨
      (∀ e ∈ request.query, route.Passes e) ∧ route.bodyViolation? request = some rejection := by
  unfold Route.violation?
  rw [← Route.queryViolation?_eq_none_iff]
  cases route.queryViolation? request.query <;> simp

theorem Route.violation?_eq_none_iff {route : Route} {request : Descriptor} :
    route.violation? request = none ↔
      (∀ e ∈ request.query, route.Passes e) ∧ route.bodyViolation? request = none := by
  unfold Route.violation?
  rw [← Route.queryViolation?_eq_none_iff]
  cases route.queryViolation? request.query <;> simp

theorem firstViolation_iff {route : Route} {request : Descriptor} {rejection : Rejection} :
    FirstViolation route request rejection ↔ route.violation? request = some rejection := by
  rw [Route.violation?_eq_some_iff]
  constructor
  · intro h
    cases h with
    | @unknownQueryParameter _ _ name value hsplit hbefore hname =>
      have hentry : route.entryViolation? (name, value) = some (.unknownQueryParameter name) :=
        Route.entryViolation?_eq_some_iff.mpr (.inl ⟨rfl, hname⟩)
      exact .inl (Route.queryViolation?_eq_some_iff.mpr ⟨_, _, _, hsplit, hbefore, hentry⟩)
    | @invalidQueryParameterType _ _ name value p hsplit hbefore hp hbad =>
      have hentry : route.entryViolation? (name, value) =
          some (.invalidQueryParameterType name) :=
        Route.entryViolation?_eq_some_iff.mpr (.inr ⟨rfl, p, hp, hbad⟩)
      exact .inl (Route.queryViolation?_eq_some_iff.mpr ⟨_, _, _, hsplit, hbefore, hentry⟩)
    | bodyNotPermitted hall hnone hno =>
      exact .inr ⟨hall, Route.bodyViolation?_eq_some_iff.mpr (.inl ⟨rfl, hnone, hno⟩)⟩
    | invalidBody hall hp hschema hvalue hfalse =>
      exact .inr ⟨hall, Route.bodyViolation?_eq_some_iff.mpr
        (.inr ⟨rfl, _, _, _, hp, hschema, hvalue, hfalse⟩)⟩
  · rintro (hquery | ⟨hall, hbody⟩)
    · obtain ⟨before, ⟨name, value⟩, after, hsplit, hbefore, hentry⟩ :=
        Route.queryViolation?_eq_some_iff.mp hquery
      rcases Route.entryViolation?_eq_some_iff.mp hentry with ⟨rfl, hname⟩ | ⟨rfl, p, hp, hbad⟩
      · exact .unknownQueryParameter hsplit hbefore hname
      · exact .invalidQueryParameterType hsplit hbefore hp hbad
    · rcases Route.bodyViolation?_eq_some_iff.mp hbody with
        ⟨rfl, hnone, hno⟩ | ⟨rfl, p, schema, value, hp, hschema, hvalue, hfalse⟩
      · exact .bodyNotPermitted hall hnone hno
      · exact .invalidBody hall hp hschema hvalue hfalse

/-- The outcome of a check is the violation of the route that is found. -/
theorem Table.check_of_get? {table : Table} {request : Descriptor} {route : Route}
    (h : table.get? request.path request.method = some route) (rejection : Rejection) :
    table.check request = .rejected rejection ↔ route.violation? request = some rejection := by
  unfold Table.check
  rw [h]
  cases hv : route.violation? request <;> simp [hv]

theorem Table.check_eq_accepted_iff {table : Table} {request : Descriptor} :
    table.check request = .accepted ↔
      ∀ route, table.get? request.path request.method = some route →
        route.violation? request = none := by
  unfold Table.check
  cases table.get? request.path request.method with
  | none => simp
  | some route => cases hv : route.violation? request <;> simp [hv]

/-- **The first violation decides.** Without rules for its path and method a request is accepted;
else it is rejected with its first violation, and accepted if it has none. -/
theorem check_firstViolation (table : Table) (request : Descriptor) :
    match table.get? request.path request.method with
    | none => table.check request = .accepted
    | some route =>
      (∀ rejection, table.check request = .rejected rejection ↔
        FirstViolation route request rejection) ∧
      (table.check request = .accepted ↔ ∀ rejection, ¬FirstViolation route request rejection) := by
  cases hroute : table.get? request.path request.method with
  | none =>
    unfold Table.check
    rw [hroute]
  | some route =>
    have hrejected : ∀ rejection, table.check request = .rejected rejection ↔
        FirstViolation route request rejection := fun rejection =>
      (Table.check_of_get? hroute rejection).trans firstViolation_iff.symm
    refine ⟨hrejected, ?_⟩
    constructor
    · intro haccepted rejection hviolation
      rw [(hrejected rejection).mpr hviolation] at haccepted
      cases haccepted
    · intro hnone
      cases houtcome : table.check request with
      | accepted => rfl
      | rejected rejection => exact absurd ((hrejected rejection).mp houtcome) (hnone rejection)

end Gatehouse.Rules
