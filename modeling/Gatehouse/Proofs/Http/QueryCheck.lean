import Gatehouse.Proofs.Check.FirstViolation
import Gatehouse.Proofs.Http.QueryGroups
/-!
Rules for the pairs of a query.

A rule for a name is met by the group of that name: by one text, where the name is given once and
without `[]`, and else by a list of texts. No other shapes come out of pairs, so few schemas can
be met at all: `string` and `integer` by one text, and arrays of these two by a list.

    the entries of `ofPairs pairs` pass  ↔  every name of the pairs is served
    else the check blames the first name of the pairs that is not served     (check_ofPairs)

The entries stand in the order in which their names come first, so the first entry that is
refused is that of the first pair, as the pairs were sent, whose name is not served.
-/

namespace Gatehouse

open Check (Descriptor Rejection Outcome)
open Http.Query

/-! ## What texts satisfy -/

/-- One text satisfies the schema. -/
def Schema.ReadsOne : Schema → String → Prop
  | .string, _ => True
  | .integer, text => Json.isIntegerText text = true
  | _, _ => False

/-- A list of texts satisfies the schema. -/
def Schema.ReadsMany : Schema → List String → Prop
  | .array .string, _ => True
  | .array .integer, texts => ∀ text ∈ texts, Json.isIntegerText text = true
  | _, _ => False

/-- A schema that no texts satisfy: an object, an unknown type, or an array of anything that is
not a string or an integer. -/
inductive Schema.Unreadable : Schema → Prop
  | unrecognized (typeName : String) : Unreadable (.unrecognized typeName)
  | object (required : List String) (properties : List (String × Schema)) :
      Unreadable (.object required properties)
  | array {items : Schema} : items ≠ .string → items ≠ .integer → Unreadable (.array items)

/-! ## Lemmas: texts and schemas -/

theorem Schema.accepts_string_iff (schema : Schema) (text : String) :
    schema.accepts (.string text) = true ↔ schema.ReadsOne text := by
  cases schema with
  | string => simp [Schema.accepts, Schema.ReadsOne, Json.isString]
  | integer => rfl
  | unrecognized typeName => simp [Schema.accepts, Schema.ReadsOne]
  | array items => simp [Schema.accepts, Schema.ReadsOne]
  | object required properties => simp [Schema.accepts, Schema.ReadsOne]

/-- A list of texts that is not empty has a text that the items must accept. -/
theorem Schema.accepts_texts_iff (schema : Schema) {texts : List String} (h : texts ≠ []) :
    schema.accepts (.array (texts.map .string)) = true ↔ schema.ReadsMany texts := by
  cases schema with
  | string => simp [Schema.accepts, Schema.ReadsMany, Json.isString]
  | integer => simp [Schema.accepts, Schema.ReadsMany, Json.isIntegerLike]
  | unrecognized typeName => simp [Schema.accepts, Schema.ReadsMany]
  | object required properties => simp [Schema.accepts, Schema.ReadsMany]
  | array items =>
    have hall : (Schema.array items).accepts (.array (texts.map .string)) = true ↔
        ∀ text ∈ texts, items.ReadsOne text := by
      simp only [Schema.accepts, List.all_eq_true, List.mem_map, forall_exists_index, and_imp,
        forall_apply_eq_imp_iff₂, accepts_string_iff]
    rw [hall]
    obtain ⟨text, htext⟩ := List.exists_mem_of_ne_nil texts h
    have hfalse : (∀ text, ¬items.ReadsOne text) → ¬∀ text ∈ texts, items.ReadsOne text :=
      fun hnone hall => hnone text (hall text htext)
    cases items with
    | string => simp [Schema.ReadsOne, Schema.ReadsMany]
    | integer => rfl
    | unrecognized typeName => exact iff_of_false (hfalse fun _ => id) id
    | array items => exact iff_of_false (hfalse fun _ => id) id
    | object required properties => exact iff_of_false (hfalse fun _ => id) id

theorem Schema.Unreadable.not_readsOne {schema : Schema} (h : schema.Unreadable) (text : String) :
    ¬schema.ReadsOne text := by
  cases h <;> exact id

theorem Schema.Unreadable.not_readsMany {schema : Schema} (h : schema.Unreadable)
    (texts : List String) : ¬schema.ReadsMany texts := by
  cases h with
  | unrecognized typeName => exact id
  | object required properties => exact id
  | @array items hstring hinteger =>
    cases items with
    | string => exact absurd rfl hstring
    | integer => exact absurd rfl hinteger
    | unrecognized typeName => exact id
    | array items => exact id
    | object required properties => exact id

namespace Rules

/-! ## What a route serves -/

/-- The first rule for a name has a schema that the group of the name satisfies. -/
def Route.Serves (route : Route) (pairs : List (String × String)) (name : String) : Prop :=
  ∃ p schema, route.First (Parameter.IsQuery name) p ∧ p.schema = some schema ∧
    ((¬IsMulti pairs name ∧ ∃ text, group pairs name = [text] ∧ schema.ReadsOne text) ∨
      (IsMulti pairs name ∧ schema.ReadsMany (group pairs name)))

/-- Of the names that are not served it is the one that comes first in the pairs. -/
def Route.FirstUnserved (route : Route) (pairs : List (String × String)) (name : String) : Prop :=
  ¬route.Serves pairs name ∧
    ∃ before pair after, pairs = before ++ pair :: after ∧ nameOf pair = name ∧
      ∀ p ∈ before, route.Serves pairs (nameOf p)

/-! ## Lemmas: entries and groups -/

/-- The entry of a name passes iff the name is served. -/
theorem passes_valueOf_iff {route : Route} {pairs : List (String × String)} {name : String}
    (h : name ∈ names pairs) :
    route.Passes (name, valueOf pairs name) ↔ route.Serves pairs name := by
  have hvalue : ∀ schema : Schema, schema.accepts (valueOf pairs name) = true ↔
      (¬IsMulti pairs name ∧ ∃ text, group pairs name = [text] ∧ schema.ReadsOne text) ∨
        (IsMulti pairs name ∧ schema.ReadsMany (group pairs name)) := by
    intro schema
    unfold valueOf
    by_cases hmulti : IsMulti pairs name
    · have hne : group pairs name ≠ [] := fun hnil => group_eq_nil_iff.mp hnil h
      rw [if_pos hmulti, Schema.accepts_texts_iff schema hne]
      simp [hmulti]
    · obtain ⟨text, htext⟩ := exists_group_eq_singleton hmulti h
      rw [if_neg hmulti, htext, List.headD_cons, Schema.accepts_string_iff]
      simp [hmulti]
  unfold Route.Passes Route.Serves
  simp only [hvalue]

theorem mem_names_of_mem {pairs : List (String × String)} {pair : String × String}
    (h : pair ∈ pairs) : nameOf pair ∈ names pairs :=
  mem_names_iff.mpr ⟨pair, h, rfl⟩

/-- Leaving out the later duplicates does not change what a search finds. -/
theorem findSome?_eraseDups {α : Type} (f : String → Option α) (ns : List String) :
    ns.eraseDups.findSome? f = ns.findSome? f := by
  induction ns using List.reverseRecOn with
  | nil => rfl
  | append_singleton ns n ih =>
    rw [eraseDups_concat, List.findSome?_append]
    by_cases h : n ∈ ns
    · rw [if_pos h, ih]
      cases hfound : ns.findSome? f with
      | some a => rfl
      | none =>
        rw [List.findSome?_eq_none_iff] at hfound
        simp [hfound n h]
    · rw [if_neg h, List.findSome?_append, ih]

/-- The entries are searched as if there were one for each pair. -/
theorem queryViolation?_ofPairs (route : Route) (pairs : List (String × String)) :
    route.queryViolation? (ofPairs pairs) =
      pairs.findSome? fun p => route.entryViolation? (nameOf p, valueOf pairs (nameOf p)) := by
  unfold Route.queryViolation?
  rw [ofPairs_eq_map_groups, List.findSome?_map, names, findSome?_eraseDups, List.findSome?_map]
  rfl

/-- The query passes iff all names are served. -/
theorem queryViolation?_ofPairs_eq_none_iff {route : Route} {pairs : List (String × String)} :
    route.queryViolation? (ofPairs pairs) = none ↔
      ∀ name, group pairs name ≠ [] → route.Serves pairs name := by
  rw [queryViolation?_ofPairs, List.findSome?_eq_none_iff]
  simp only [Route.entryViolation?_eq_none_iff]
  constructor
  · intro hall name hne
    have hname : name ∈ names pairs := not_not.mp fun hnot => hne (group_eq_nil_iff.mpr hnot)
    obtain ⟨pair, hpair, rfl⟩ := mem_names_iff.mp hname
    exact (passes_valueOf_iff hname).mp (hall pair hpair)
  · intro hall pair hpair
    have hname : nameOf pair ∈ names pairs := mem_names_of_mem hpair
    have hne : group pairs (nameOf pair) ≠ [] := fun hnil => group_eq_nil_iff.mp hnil hname
    exact (passes_valueOf_iff hname).mpr (hall _ hne)

/-- What the query violates is what the entry of the first name that is not served violates. -/
theorem queryViolation?_ofPairs_eq_some_iff {route : Route} {pairs : List (String × String)}
    {rejection : Rejection} :
    route.queryViolation? (ofPairs pairs) = some rejection ↔
      ∃ name, route.FirstUnserved pairs name ∧
        route.entryViolation? (name, valueOf pairs name) = some rejection := by
  rw [queryViolation?_ofPairs, List.findSome?_eq_some_iff]
  simp only [Route.entryViolation?_eq_none_iff]
  constructor
  · rintro ⟨before, pair, after, hsplit, hentry, hbefore⟩
    have hname : nameOf pair ∈ names pairs := mem_names_of_mem (by simp [hsplit])
    refine ⟨nameOf pair, ⟨fun hserves => ?_, before, pair, after, hsplit, rfl, fun p hp => ?_⟩,
      hentry⟩
    · have hpasses := (passes_valueOf_iff hname).mpr hserves
      rw [Route.entryViolation?_eq_none_iff.mpr hpasses] at hentry
      cases hentry
    · exact (passes_valueOf_iff (mem_names_of_mem (by simp [hsplit, hp]))).mp (hbefore p hp)
  · rintro ⟨_, ⟨-, before, pair, after, hsplit, rfl, hbefore⟩, hentry⟩
    refine ⟨before, pair, after, hsplit, hentry, fun p hp => ?_⟩
    exact (passes_valueOf_iff (mem_names_of_mem (by simp [hsplit, hp]))).mpr (hbefore p hp)

theorem Route.FirstUnserved.mem_names {route : Route} {pairs : List (String × String)}
    {name : String} (h : route.FirstUnserved pairs name) : name ∈ names pairs := by
  obtain ⟨-, before, pair, after, hsplit, rfl, -⟩ := h
  exact mem_names_of_mem (by simp [hsplit])

/-- The entry of a name that is not served is refused for its name if no rule has that name, and
else for its value. -/
theorem entryViolation?_of_not_serves {route : Route} {pairs : List (String × String)}
    {name : String} (hname : name ∈ names pairs) (h : ¬route.Serves pairs name) :
    (¬route.Declares name → route.entryViolation? (name, valueOf pairs name) =
      some (.unknownQueryParameter name)) ∧
    (route.Declares name → route.entryViolation? (name, valueOf pairs name) =
      some (.invalidQueryParameterType name)) := by
  cases hentry : route.entryViolation? (name, valueOf pairs name) with
  | none => exact absurd ((passes_valueOf_iff hname).mp
      (Route.entryViolation?_eq_none_iff.mp hentry)) h
  | some rejection =>
    rcases Route.entryViolation?_eq_some_iff.mp hentry with ⟨rfl, hnot⟩ | ⟨rfl, p, hp, -⟩
    · exact ⟨fun _ => rfl, fun hdeclared => absurd hdeclared hnot⟩
    · have hdeclared := Route.declares_iff_exists_first.mpr ⟨p, hp⟩
      exact ⟨fun hnot => absurd hdeclared hnot, fun _ => rfl⟩

/-- A name with a rule that no texts satisfy is not served. -/
theorem not_serves_of_unreadable {route : Route} {name : String} {p : Parameter}
    {schema : Schema} (hp : route.First (Parameter.IsQuery name) p)
    (hschema : p.schema = some schema) (h : schema.Unreadable)
    (pairs : List (String × String)) : ¬route.Serves pairs name := by
  rintro ⟨q, schema', hq, hschema', hread⟩
  obtain rfl := hp.unique hq
  obtain rfl : schema = schema' := Option.some.inj (hschema.symm.trans hschema')
  rcases hread with ⟨-, text, -, hone⟩ | ⟨-, hmany⟩
  · exact h.not_readsOne text hone
  · exact h.not_readsMany _ hmany

/-! ## The theorem -/

/-- **Pairs are checked group by group.** The query of pairs passes iff every name of the pairs
is served. Else there is a first name that is not, and the request is rejected for it; so a name
whose rule no texts satisfy can not be sent at all. -/
theorem check_ofPairs {table : Table} {route : Route} {request : Descriptor}
    {pairs : List (String × String)}
    (hroute : table.get? request.path request.method = some route)
    (hquery : request.query = ofPairs pairs) :
    (route.queryViolation? request.query = none ↔
      ∀ name, group pairs name ≠ [] → route.Serves pairs name) ∧
    ((¬∀ name, group pairs name ≠ [] → route.Serves pairs name) →
      ∃ name, route.FirstUnserved pairs name) ∧
    (∀ name, route.FirstUnserved pairs name →
      (¬route.Declares name → table.check request = .rejected (.unknownQueryParameter name)) ∧
      (route.Declares name →
        table.check request = .rejected (.invalidQueryParameterType name))) ∧
    (∀ name p schema, route.First (Parameter.IsQuery name) p → p.schema = some schema →
      schema.Unreadable → group pairs name ≠ [] →
      ∃ rejection, table.check request = .rejected rejection) := by
  have hpasses : route.queryViolation? (ofPairs pairs) = none ↔
      ∀ name, group pairs name ≠ [] → route.Serves pairs name :=
    queryViolation?_ofPairs_eq_none_iff
  have hrejected : ∀ rejection, route.queryViolation? (ofPairs pairs) = some rejection →
      table.check request = .rejected rejection := by
    intro rejection hviolation
    rw [Table.check_of_get? hroute, Route.violation?_eq_some_iff, hquery]
    exact .inl hviolation
  rw [hquery]
  refine ⟨hpasses, ?_, ?_, ?_⟩
  · intro hnot
    obtain ⟨rejection, hviolation⟩ := Option.ne_none_iff_exists'.mp fun h => hnot (hpasses.mp h)
    obtain ⟨name, hfirst, -⟩ := queryViolation?_ofPairs_eq_some_iff.mp hviolation
    exact ⟨name, hfirst⟩
  · intro name hfirst
    obtain ⟨hunknown, hinvalid⟩ := entryViolation?_of_not_serves hfirst.mem_names hfirst.1
    constructor
    · intro hnot
      exact hrejected _ (queryViolation?_ofPairs_eq_some_iff.mpr ⟨name, hfirst, hunknown hnot⟩)
    · intro hdeclared
      exact hrejected _
        (queryViolation?_ofPairs_eq_some_iff.mpr ⟨name, hfirst, hinvalid hdeclared⟩)
  · intro name p schema hp hschema hunreadable hne
    have hnot : route.queryViolation? (ofPairs pairs) ≠ none := fun h =>
      not_serves_of_unreadable hp hschema hunreadable pairs (hpasses.mp h name hne)
    obtain ⟨rejection, hviolation⟩ := Option.ne_none_iff_exists'.mp hnot
    exact ⟨rejection, hrejected rejection hviolation⟩

/-- Both names are given twice, by turns; the list of tags passes, the two numbers do not. -/
theorem check_interleaved_pairs :
    (Table.empty.insert "/p" "GET"
      ⟨[.query "tag" (.array .string), .query "n" .integer]⟩).check
        ⟨"GET", "/p", "", ofPairs [("tag", "a"), ("n", "1"), ("tag[]", "b"), ("n[]", "2")], none⟩ =
      .rejected (.invalidQueryParameterType "n") := by
  let route : Route := ⟨[.query "tag" (.array .string), .query "n" .integer]⟩
  let pairs := [("tag", "a"), ("n", "1"), ("tag[]", "b"), ("n[]", "2")]
  have htag : route.Serves pairs "tag" :=
    (passes_valueOf_iff (by decide)).mp (Route.entryViolation?_eq_none_iff.mp (by decide))
  have hn : ¬route.Serves pairs "n" := fun hserves =>
    absurd (Route.entryViolation?_eq_none_iff.mpr ((passes_valueOf_iff (by decide)).mpr hserves))
      (by decide)
  have hfirst : route.FirstUnserved pairs "n" := by
    refine ⟨hn, [("tag", "a")], ("n", "1"), [("tag[]", "b"), ("n[]", "2")], rfl, by decide, ?_⟩
    intro p hp
    obtain rfl := List.mem_singleton.mp hp
    exact htag
  have hdeclared : route.Declares "n" :=
    ⟨.query "n" .integer, List.mem_cons_of_mem _ List.mem_cons_self, rfl, rfl⟩
  exact ((check_ofPairs rfl rfl).2.2.1 "n" hfirst).2 hdeclared

end Rules

end Gatehouse
