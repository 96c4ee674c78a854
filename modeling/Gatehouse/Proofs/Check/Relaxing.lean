import Gatehouse.Proofs.Check.FirstViolation
import Gatehouse.Proofs.Schema.Positions
import Mathlib.Data.List.Forall2
/-!
Rules that ask for less.

A schema relaxes another if it asks for no more, part by part: fewer fields are required, and more
may be there. A route relaxes another if the parameters that are enforced are the same, in their
order, with schemas that relax theirs, and further parameters of the query come last; the
parameters that are not enforced do not matter. Then

    schema.Relaxes schema'  →  what `schema` accepts, `schema'` accepts
    table.Relaxes table'    →  what `table` accepts, `table'` accepts      (check_of_relaxes)

A query is searched for the first parameter of a name, so a parameter that is added behind all
others never takes the place of one that is there. A body without a schema stays so: to give it
one is no relaxation, since `null` and a missing body would be checked as `{}`.
-/

namespace Gatehouse

open Check (Descriptor)

/-! ## Relaxing -/

/-- The second schema asks for no more than the first. An unknown type, which no value has, can
become anything. -/
inductive Schema.Relaxes : Schema → Schema → Prop
  | unrecognized (typeName : String) (schema : Schema) : Relaxes (.unrecognized typeName) schema
  | string : Relaxes .string .string
  | integer : Relaxes .integer .integer
  | array {items items' : Schema} : Relaxes items items' → Relaxes (.array items) (.array items')
  | object {required required' : List String} {properties properties' : List (String × Schema)} :
      (∀ name ∈ required', name ∈ required) →
      (∀ name ∈ Fields.names properties, name ∈ Fields.names properties') →
      (∀ name schema schema', Fields.get? properties name = some schema →
        Fields.get? properties' name = some schema' → Relaxes schema schema') →
      Relaxes (.object required properties) (.object required' properties')

namespace Rules

/-- The second parameter has the name and the location of the first, and a schema that relaxes its
schema. Without a schema, a parameter in the query can have any, and a body none. -/
inductive Parameter.Relaxes : Parameter → Parameter → Prop
  | schema {name : String} {location : Location} {schema schema' : Schema} :
      schema.Relaxes schema' → Relaxes ⟨name, location, some schema⟩ ⟨name, location, some schema'⟩
  | untypedQuery {name : String} {schema' : Option Schema} :
      Relaxes ⟨name, .query, none⟩ ⟨name, .query, schema'⟩
  | untypedBody {name : String} : Relaxes ⟨name, .body, none⟩ ⟨name, .body, none⟩

/-- The parameters that are enforced, in order. -/
def Route.enforced (route : Route) : List Parameter :=
  route.parameters.filter (·.location ≠ .other)

/-- The parameters that are enforced are relaxed one by one, and more in the query may follow. -/
def Route.Relaxes (route route' : Route) : Prop :=
  ∃ kept added, route'.enforced = kept ++ added ∧
    List.Forall₂ Parameter.Relaxes route.enforced kept ∧ ∀ p ∈ added, p.location = .query

/-- There are rules for the same paths and methods, and each route is relaxed. -/
def Table.Relaxes (table table' : Table) : Prop :=
  ∀ path method, Option.Rel Route.Relaxes (table.get? path method) (table'.get? path method)

/-- All schemas of a route are well-formed. -/
def Route.WellFormed (route : Route) : Prop :=
  ∀ p ∈ route.parameters, ∀ schema, p.schema = some schema → schema.WellFormed

/-- All schemas of a table are well-formed. -/
def Table.WellFormed (table : Table) : Prop :=
  ∀ path method route, table.get? path method = some route → route.WellFormed

end Rules

/-! ## Lemmas: schemas -/

namespace Schema

/-- What a schema accepts, one that relaxes it accepts. The induction is on how it is relaxed. -/
theorem Relaxes.accepts {schema schema' : Schema} (h : schema.Relaxes schema')
    (hformed : schema'.WellFormed) {value : Json} (haccepts : schema.accepts value = true) :
    schema'.accepts value = true := by
  induction h generalizing value with
  | unrecognized typeName schema => simp [Schema.accepts] at haccepts
  | string => exact haccepts
  | integer => exact haccepts
  | array _ ih =>
    cases hformed with
    | array hitems =>
      obtain ⟨values, rfl⟩ := exists_array_of_accepts haccepts
      refine accepts_array_iff.mpr fun index value hvalue => ?_
      exact ih hitems (accepts_array_iff.mp haccepts index value hvalue)
  | object hrequired hnames _ ih =>
    cases hformed with
    | object hsorted heach =>
      obtain ⟨fields, rfl⟩ := exists_object_of_accepts haccepts
      obtain ⟨hall, hdeclared, hpresent⟩ := accepts_object_iff_checks.mp haccepts
      refine (accepts_object_iff hsorted fields).mpr
        ⟨fun name hname => hall name (hrequired name hname), fun name value hvalue => ?_⟩
      have hname := hdeclared name (Fields.mem_names_iff.mpr ⟨value, hvalue⟩)
      obtain ⟨schema, hschema⟩ := Fields.mem_names_iff.mp hname
      obtain ⟨schema', hschema'⟩ := Fields.mem_names_iff.mp (hnames name hname)
      have hvalue' := hpresent (name, schema) (Fields.mem_of_get? hschema) value hvalue
      have hformed' := heach (name, schema') (Fields.mem_of_get? hschema')
      exact ⟨schema', hschema', ih name schema schema' hschema hschema' hformed' hvalue'⟩

/-- A schema that stays as it is asks for no more. -/
theorem Relaxes.refl (schema : Schema) : schema.Relaxes schema := by
  cases schema with
  | string => exact .string
  | integer => exact .integer
  | unrecognized typeName => exact .unrecognized typeName _
  | array items => exact .array (Relaxes.refl items)
  | object required properties =>
    refine .object (fun _ hname => hname) (fun _ hname => hname) fun name sub sub' hsub hsub' => ?_
    obtain rfl := Option.some.inj (hsub.symm.trans hsub')
    have hstep : (Schema.object required properties).step? (.field name) = some sub := hsub
    have hsmaller : sizeOf sub < 1 + sizeOf required + sizeOf properties := by
      have hsmaller := sizeOf_lt_of_step? hstep
      rwa [Schema.object.sizeOf_spec] at hsmaller
    exact Relaxes.refl sub
termination_by sizeOf schema

end Schema

/-! ## Lemmas: routes -/

namespace Rules

/-- A search for parameters that are enforced can leave out the others. -/
theorem Route.find?_enforced (route : Route) (test : Parameter → Bool)
    (h : ∀ p, test p = true → p.location ≠ .other) :
    route.enforced.find? test = route.parameters.find? test := by
  unfold enforced
  rw [List.find?_filter]
  refine congrArg (fun test => route.parameters.find? test) (funext fun p => ?_)
  by_cases hp : test p = true
  · simp [hp, h p hp]
  · simp [hp]

/-- A search finds a parameter and, at its place, the one that relaxes it; or it finds nothing. -/
theorem find?_of_forall₂ {ps ps' : List Parameter} (h : List.Forall₂ Parameter.Relaxes ps ps')
    (test : Parameter → Bool) (htest : ∀ p p', p.Relaxes p' → test p = test p') :
    (∃ p p', ps.find? test = some p ∧ ps'.find? test = some p' ∧ p.Relaxes p') ∨
    ps.find? test = none ∧ ps'.find? test = none := by
  induction h with
  | nil => exact .inr ⟨rfl, rfl⟩
  | @cons p p' ps ps' hp _ ih =>
    rw [List.find?_cons, List.find?_cons, ← htest p p' hp]
    cases test p with
    | true => exact .inl ⟨p, p', rfl, rfl, hp⟩
    | false => exact ih

theorem Parameter.Relaxes.location_eq {p p' : Parameter} (h : p.Relaxes p') :
    p.location = p'.location := by
  cases h <;> rfl

theorem Parameter.Relaxes.name_eq {p p' : Parameter} (h : p.Relaxes p') : p.name = p'.name := by
  cases h <;> rfl

variable {route route' : Route}

/-- Where a search finds something, it finds what relaxes it; where it finds nothing, there may be
a parameter that was added. -/
theorem Route.Relaxes.find? (h : route.Relaxes route') (test : Parameter → Bool)
    (htest : ∀ p p', p.Relaxes p' → test p = test p')
    (henforced : ∀ p, test p = true → p.location ≠ .other) :
    (∃ p p', route.parameters.find? test = some p ∧ route'.parameters.find? test = some p' ∧
      p.Relaxes p') ∨
    (route.parameters.find? test = none ∧
      ∀ p', route'.parameters.find? test = some p' → p'.location = .query) := by
  obtain ⟨kept, added, hsplit, hkept, hadded⟩ := h
  rw [← route.find?_enforced test henforced, ← route'.find?_enforced test henforced, hsplit,
    List.find?_append]
  rcases find?_of_forall₂ hkept test htest with ⟨p, p', hp, hp', hrelaxes⟩ | ⟨hnone, hnone'⟩
  · exact .inl ⟨p, p', hp, by rw [hp', Option.some_or], hrelaxes⟩
  · refine .inr ⟨hnone, fun p' hp' => ?_⟩
    rw [hnone', Option.none_or] at hp'
    exact hadded p' (List.mem_of_find?_eq_some hp')

/-- The parameter that counts for a name is relaxed, and stays the one that counts. -/
theorem Route.Relaxes.query? (h : route.Relaxes route') {name : String} {p : Parameter}
    (hp : route.query? name = some p) : ∃ p', route'.query? name = some p' ∧ p.Relaxes p' := by
  rw [Route.query?_eq_find?] at hp ⊢
  have hfound := h.find? (fun p => decide (p.location = .query ∧ p.name = name))
    (fun p p' hp => by simp only [hp.location_eq, hp.name_eq])
    (fun p hp => by simp [(of_decide_eq_true hp).1])
  rcases hfound with ⟨q, p', hq, hp', hrelaxes⟩ | ⟨hnone, -⟩
  · obtain rfl := Option.some.inj (hp.symm.trans hq)
    exact ⟨p', hp', hrelaxes⟩
  · rw [hnone] at hp
    cases hp

/-- The schema of the body is relaxed, and there is one only if there was one. -/
theorem Route.Relaxes.bodySchema (h : route.Relaxes route') :
    Option.Rel Schema.Relaxes route.bodySchema route'.bodySchema := by
  unfold Route.bodySchema
  have hfound := h.find? (fun p => decide (p.location = .body))
    (fun p p' hp => by simp only [hp.location_eq])
    (fun p hp => by simp [of_decide_eq_true hp])
  rcases hfound with ⟨p, p', hp, hp', hrelaxes⟩ | ⟨hnone, hadded⟩
  · have hbody : p.location = .body := by simpa using List.find?_some hp
    rw [hp, hp']
    cases hrelaxes with
    | schema hschema => exact .some hschema
    | untypedQuery => cases hbody
    | untypedBody => exact .none
  · -- what is added is in the query, so it is no body
    have hnone' : route'.parameters.find? (fun p => decide (p.location = .body)) = none := by
      rw [Option.eq_none_iff_forall_ne_some]
      intro p' hp'
      have hbody : p'.location = .body := by simpa using List.find?_some hp'
      rw [hadded p' hp'] at hbody
      cases hbody
    rw [hnone, hnone']
    exact .none

/-! ## Lemmas: what passes -/

theorem Route.Relaxes.passes (h : route.Relaxes route') (hformed : route'.WellFormed)
    {entry : String × Json} (hpasses : route.Passes entry) : route'.Passes entry := by
  obtain ⟨p, schema, hp, hschema, haccepts⟩ := hpasses
  obtain ⟨p', hp', hrelaxes⟩ := h.query? (Route.query?_eq_some_iff.mpr hp)
  have hfirst := Route.query?_eq_some_iff.mp hp'
  cases hrelaxes with
  | @schema _ _ _ schema' hschema' =>
    obtain rfl := Option.some.inj hschema
    exact ⟨_, schema', hfirst, rfl, hschema'.accepts (hformed _ hfirst.mem _ rfl) haccepts⟩
  | untypedQuery => cases hschema
  | untypedBody => cases hschema

theorem Route.Relaxes.bodyViolation? (h : route.Relaxes route') (hformed : route'.WellFormed)
    {request : Descriptor} (hbody : route.bodyViolation? request = none) :
    route'.bodyViolation? request = none := by
  have hrelaxes := h.bodySchema
  unfold Route.bodyViolation? at hbody ⊢
  generalize route.bodySchema = old at hbody hrelaxes
  generalize hnew : route'.bodySchema = new at hrelaxes
  cases hrelaxes with
  | none => exact hbody
  | @some schema schema' hsub =>
    obtain ⟨p, hp, hschema'⟩ := Route.bodySchema_eq_some_iff.mp hnew
    have haccepts : schema.accepts request.effectiveBody = true := by simpa using hbody
    simp only [hsub.accepts (hformed p hp.mem schema' hschema') haccepts, if_true]

/-! ## The theorem -/

/-- **Relaxing rules rejects nothing that was accepted.** A schema accepts all that a schema which
it relaxes does, and so does a table. -/
theorem check_of_relaxes :
    (∀ schema schema' : Schema, schema.Relaxes schema' → schema'.WellFormed →
      ∀ value, schema.accepts value = true → schema'.accepts value = true) ∧
    ∀ table table' : Table, table.Relaxes table' → table'.WellFormed →
      ∀ request, table.check request = .accepted → table'.check request = .accepted := by
  refine ⟨fun schema schema' h hformed value => h.accepts hformed,
    fun table table' h hformed request haccepted => ?_⟩
  rw [Table.check_eq_accepted_iff] at haccepted ⊢
  intro route' hroute'
  have hrelaxes := h request.path request.method
  have hformed' := hformed request.path request.method route' hroute'
  generalize hroute : table.get? request.path request.method = old at hrelaxes
  rw [hroute'] at hrelaxes
  cases hrelaxes with
  | @some route _ hrelaxes =>
    obtain ⟨hquery, hbody⟩ := Route.violation?_eq_none_iff.mp (haccepted route hroute)
    exact Route.violation?_eq_none_iff.mpr ⟨fun e he => hrelaxes.passes hformed' (hquery e he),
      hrelaxes.bodyViolation? hformed' hbody⟩

/-- The rules of a search by labels. -/
def strictSearch : Route :=
  let label : Schema := .object ["id", "text"] [("id", .integer), ("text", .string)]
  ⟨[⟨"X-Trace", .other, some .string⟩, ⟨"limit", .query, some .integer⟩, ⟨"sort", .query, none⟩,
    ⟨"labels", .body, some (.array label)⟩]⟩

/-- A label that needs no text and can be open or not. -/
def looseLabel : Schema :=
  .object ["id"] [("id", .integer), ("open", .unrecognized "boolean"), ("text", .string)]

/-- The same search with such labels, where any text sorts, and a second rule for the limit is
behind all others. -/
def looseSearch : Route :=
  ⟨[⟨"limit", .query, some .integer⟩, ⟨"sort", .query, some .string⟩,
    ⟨"labels", .body, some (.array looseLabel)⟩, ⟨"X-Trace", .other, none⟩,
    ⟨"limit", .query, some .string⟩]⟩

theorem relaxes_looseLabel :
    (Schema.object ["id", "text"] [("id", .integer), ("text", .string)]).Relaxes looseLabel := by
  refine .object (by decide) (by decide) fun name schema schema' h h' => ?_
  have hmem := Fields.mem_of_get? h
  simp only [List.mem_cons, Prod.mk.injEq, List.not_mem_nil, or_false] at hmem
  rcases hmem with ⟨rfl, rfl⟩ | ⟨rfl, rfl⟩
  · obtain rfl : Schema.integer = schema' := Option.some.inj h'
    exact .refl _
  · obtain rfl : Schema.string = schema' := Option.some.inj h'
    exact .refl _

theorem relaxes_looseSearch : strictSearch.Relaxes looseSearch := by
  refine ⟨looseSearch.parameters.take 3, looseSearch.parameters.drop 4, rfl, ?_, by decide⟩
  exact .cons (.schema (.refl _)) (.cons .untypedQuery
    (.cons (.schema (.array relaxes_looseLabel)) .nil))

theorem wellFormed_looseLabel : looseLabel.WellFormed := by
  decide

theorem wellFormed_looseSearch : looseSearch.WellFormed := by
  intro p hp schema hschema
  simp only [looseSearch, List.mem_cons, List.not_mem_nil, or_false] at hp
  rcases hp with rfl | rfl | rfl | rfl | rfl <;> cases hschema
  · exact .integer
  · exact .string
  · exact .array wellFormed_looseLabel
  · exact .string

/-- A label and a search that are accepted under the first rules are accepted under the others. -/
theorem check_looseSearch :
    let label := Json.object [("id", .number (.whole 1)), ("text", .string "a")]
    let strict := Table.empty.insert "/search" "post" strictSearch
    let loose := Table.empty.insert "/search" "post" looseSearch
    looseLabel.accepts label = true ∧ strict.Relaxes loose ∧ loose.WellFormed ∧
      loose.check ⟨"POST", "/search", "", [("limit", .number (.whole 5))],
        some (.array [label])⟩ = .accepted := by
  intro label strict loose
  have hrelaxes : strict.Relaxes loose := by
    intro path method
    rw [Table.get?_insert, Table.get?_insert]
    split
    · exact .some relaxes_looseSearch
    · exact .none
  have hformed : loose.WellFormed := by
    intro path method route hroute
    rw [Table.get?_insert] at hroute
    split at hroute
    · cases hroute
      exact wellFormed_looseSearch
    · cases hroute
  have hlabel := check_of_relaxes.1 _ _ relaxes_looseLabel wellFormed_looseLabel label (by decide)
  exact ⟨hlabel, hrelaxes, hformed, check_of_relaxes.2 strict loose hrelaxes hformed _ (by decide)⟩

end Rules

end Gatehouse
