import Gatehouse.Check.Violation
import Gatehouse.Proofs.Schema.Positions
import Mathlib.Data.List.Forall2
/-!
The order of the fields of an object does not matter.

Two values are reorderings of each other if the objects in them have the same names, in any order,
with values that are reorderings again; arrays keep their order. Two requests are, if they differ
in the values of their query and in their body alone, and those are. Then

    value.Reordered value'      →  schema.accepts value = schema.accepts value'
    request.Reordered request'  →  table.check request = table.check request'    (check_of_reordered)

The second law needs more than the first, since a route without a schema for the body asks whether
the body is blank (`Json.Reordered.isBlank_eq`). The entries of a query keep their order, on which
the first violation depends.
-/

namespace Gatehouse

open Check (Descriptor Rejection)
open Fields (names get?)

/-! ## Reordering -/

/-- The values differ in the order of fields alone, at any depth. -/
inductive Json.Reordered : Json → Json → Prop
  | null : Reordered .null .null
  | bool (b : Bool) : Reordered (.bool b) (.bool b)
  | number (n : Number) : Reordered (.number n) (.number n)
  | string (s : String) : Reordered (.string s) (.string s)
  | array {items items' : List Json} : items.length = items'.length →
      (∀ (index : Nat) value value', items[index]? = some value → items'[index]? = some value' →
        Reordered value value') →
      Reordered (.array items) (.array items')
  | object {fields fields' : List (String × Json)} : (names fields).Perm (names fields') →
      (∀ name value value', get? fields name = some value → get? fields' name = some value' →
        Reordered value value') →
      Reordered (.object fields) (.object fields')

/-- The requests differ in the order of fields alone, in values of the query and in the body. -/
structure Check.Descriptor.Reordered (request request' : Descriptor) : Prop where
  method : request.method = request'.method
  basePath : request.basePath = request'.basePath
  subPath : request.subPath = request'.subPath
  query : List.Forall₂ (fun entry entry' => entry.1 = entry'.1 ∧ entry.2.Reordered entry'.2)
    request.query request'.query
  body : Option.Rel Json.Reordered request.body request'.body

/-! ## Lemmas: values -/

namespace Json.Reordered

variable {value value' : Json}

theorem symm (h : value.Reordered value') : value'.Reordered value := by
  induction h with
  | null => exact .null
  | bool b => exact .bool b
  | number n => exact .number n
  | string s => exact .string s
  | array hlength _ ih =>
    exact .array hlength.symm fun index inner' inner hinner' hinner =>
      ih index inner inner' hinner hinner'
  | object hnames _ ih =>
    exact .object hnames.symm fun name inner' inner hinner' hinner =>
      ih name inner inner' hinner hinner'

/-- Every value is a reordering of itself. -/
theorem refl (value : Json) : value.Reordered value := by
  match value with
  | .null => exact .null
  | .bool b => exact .bool b
  | .number n => exact .number n
  | .string s => exact .string s
  | .array items =>
    refine .array rfl fun index inner inner' hinner hinner' => ?_
    obtain rfl := Option.some.inj (hinner.symm.trans hinner')
    have hsmaller := List.sizeOf_lt_of_mem (List.mem_of_getElem? hinner)
    exact refl inner
  | .object fields =>
    refine .object (List.Perm.refl _) fun name inner inner' hinner hinner' => ?_
    obtain rfl := Option.some.inj (hinner.symm.trans hinner')
    have hsmaller : sizeOf inner < 1 + sizeOf fields := by
      have hsmaller := Schema.sizeOf_lt_of_get? hinner
      rwa [Json.object.sizeOf_spec] at hsmaller
    exact refl inner

/-- The fields of an object may be permuted, if no name is there twice. -/
theorem of_perm {fields fields' : List (String × Json)} (hnodup : (names fields).Nodup)
    (h : fields.Perm fields') : (Json.object fields).Reordered (.object fields') := by
  refine .object (h.map Prod.fst) fun name inner inner' hinner hinner' => ?_
  rw [← Fields.get?_of_perm hnodup h] at hinner'
  obtain rfl := Option.some.inj (hinner.symm.trans hinner')
  exact refl inner

/-- What is accepted is accepted in any order of its fields. The induction is on the two values, and
the schema follows them. -/
theorem accepts (h : value.Reordered value') {schema : Schema}
    (haccepts : schema.accepts value = true) : schema.accepts value' = true := by
  induction h generalizing schema with
  | null => exact haccepts
  | bool b => exact haccepts
  | number n => exact haccepts
  | string s => exact haccepts
  | @array items items' hlength _ ih =>
    cases schema with
    | string => cases haccepts
    | integer => cases haccepts
    | unrecognized typeName => simp [Schema.accepts] at haccepts
    | object required properties => simp [Schema.accepts] at haccepts
    | array sub =>
      rw [Schema.accepts_array_iff] at haccepts ⊢
      intro index inner' hinner'
      have hlt : index < items.length := by
        rw [hlength]
        exact (List.getElem?_eq_some_iff.mp hinner').1
      have hinner : items[index]? = some items[index] := List.getElem?_eq_getElem hlt
      exact ih index _ inner' hinner hinner' (haccepts index _ hinner)
  | @object fields fields' hnames _ ih =>
    cases schema with
    | string => cases haccepts
    | integer => cases haccepts
    | unrecognized typeName => simp [Schema.accepts] at haccepts
    | array sub => simp [Schema.accepts] at haccepts
    | object required properties =>
      obtain ⟨hrequired, hdeclared, hpresent⟩ := Schema.accepts_object_iff_checks.mp haccepts
      refine Schema.accepts_object_iff_checks.mpr ⟨?_, ?_, ?_⟩
      · intro name hname
        exact hnames.mem_iff.mp (hrequired name hname)
      · intro name hname
        exact hdeclared name (hnames.mem_iff.mpr hname)
      · intro p hp inner' hinner'
        have hname : p.1 ∈ names fields :=
          hnames.mem_iff.mpr (Fields.mem_names_iff.mpr ⟨inner', hinner'⟩)
        obtain ⟨inner, hinner⟩ := Fields.mem_names_iff.mp hname
        exact ih p.1 inner inner' hinner hinner' (hpresent p hp inner hinner)

theorem accepts_eq (h : value.Reordered value') (schema : Schema) :
    schema.accepts value = schema.accepts value' := by
  rw [Bool.eq_iff_iff]
  exact ⟨h.accepts, h.symm.accepts⟩

/-- Whether a value is blank does not depend on the order of its fields. -/
theorem isBlank_eq (h : value.Reordered value') : value.isBlank = value'.isBlank := by
  cases h with
  | null => rfl
  | bool b => rfl
  | number n => rfl
  | string s => rfl
  | @array items items' hlength _ =>
    show items.isEmpty = items'.isEmpty
    rw [Bool.eq_iff_iff, List.isEmpty_iff_length_eq_zero, List.isEmpty_iff_length_eq_zero, hlength]
  | @object fields fields' hnames _ =>
    have hempty := hnames.isEmpty_eq
    show fields.isEmpty = fields'.isEmpty
    simpa only [names, List.isEmpty_map] using hempty

end Json.Reordered

/-! ## Lemmas: requests -/

namespace Check.Descriptor.Reordered

variable {request request' : Descriptor}

theorem path_eq (h : request.Reordered request') : request.path = request'.path := by
  unfold path
  rw [h.basePath, h.subPath]

theorem hasBlankBody_eq (h : request.Reordered request') :
    request.hasBlankBody = request'.hasBlankBody := by
  have hbody := h.body
  unfold hasBlankBody
  generalize request.body = body at hbody
  generalize request'.body = body' at hbody
  cases hbody with
  | none => rfl
  | some hvalue => exact hvalue.isBlank_eq

/-- What a schema for the body is asked about is reordered too: `null` is no reordering of another
value. -/
theorem effectiveBody (h : request.Reordered request') :
    request.effectiveBody.Reordered request'.effectiveBody := by
  have hbody := h.body
  unfold Descriptor.effectiveBody
  generalize request.body = body at hbody
  generalize request'.body = body' at hbody
  cases hbody with
  | none => exact .refl _
  | some hvalue =>
    cases hvalue with
    | null => exact .refl _
    | bool b => exact .bool b
    | number n => exact .number n
    | string s => exact .string s
    | array hlength hitems => exact .array hlength hitems
    | object hnames hfields => exact .object hnames hfields

end Check.Descriptor.Reordered

namespace Rules

variable {route : Route}

theorem Route.entryViolation?_of_reordered {name : String} {value value' : Json}
    (h : value.Reordered value') :
    route.entryViolation? (name, value) = route.entryViolation? (name, value') := by
  unfold Route.entryViolation?
  simp only [h.accepts_eq]

/-- Entry by entry, the two queries violate the same, so their first violations are the same. -/
theorem Route.queryViolation?_of_reordered {query query' : List (String × Json)}
    (h : List.Forall₂ (fun entry entry' => entry.1 = entry'.1 ∧ entry.2.Reordered entry'.2)
      query query') :
    route.queryViolation? query = route.queryViolation? query' := by
  unfold Route.queryViolation?
  induction h with
  | nil => rfl
  | @cons entry entry' rest rest' hentry _ ih =>
    obtain ⟨name, value⟩ := entry
    obtain ⟨name', value'⟩ := entry'
    obtain ⟨rfl, hvalue⟩ := hentry
    rw [List.findSome?_cons, List.findSome?_cons, Route.entryViolation?_of_reordered hvalue, ih]

theorem Route.bodyViolation?_of_reordered {request request' : Descriptor}
    (h : request.Reordered request') :
    route.bodyViolation? request = route.bodyViolation? request' := by
  unfold Route.bodyViolation?
  cases route.bodySchema with
  | none => simp only [h.hasBlankBody_eq]
  | some schema => simp only [h.effectiveBody.accepts_eq]

theorem Route.violation?_of_reordered {request request' : Descriptor}
    (h : request.Reordered request') : route.violation? request = route.violation? request' := by
  unfold Route.violation?
  rw [Route.queryViolation?_of_reordered h.query, Route.bodyViolation?_of_reordered h]

/-! ## The theorem -/

/-- **The order of fields does not matter.** Values that are reorderings of each other are accepted
by the same schemas, and requests with such values have the same outcome under every table. -/
theorem check_of_reordered :
    (∀ (schema : Schema) (value value' : Json), value.Reordered value' →
      schema.accepts value = schema.accepts value') ∧
    ∀ (table : Table) (request request' : Descriptor), request.Reordered request' →
      table.check request = table.check request' := by
  constructor
  · intro schema value value' h
    exact h.accepts_eq schema
  · intro table request request' h
    unfold Table.check
    rw [h.path_eq, h.method]
    cases table.get? request'.path request'.method with
    | none => rfl
    | some route => simp only [Route.violation?_of_reordered h]

/-- A route that takes a range of days in its query, and a list of ranges as its body. -/
def ranges : Route :=
  let range : Schema := .object ["from"] [("from", .integer), ("to", .integer)]
  ⟨[⟨"within", .query, some range⟩, ⟨"ranges", .body, some (.array range)⟩]⟩

/-- The days of January, from the first to the last. -/
def january : Json :=
  .object [("from", .number (.whole 1)), ("to", .string "31")]

/-- The days of January, with the last one named first. -/
def januaryFromEnd : Json :=
  .object [("to", .string "31"), ("from", .number (.whole 1))]

theorem reordered_january : january.Reordered januaryFromEnd :=
  .of_perm (by decide) (.swap _ _ _)

/-- A range is taken in any order of its fields, in the query and inside the body. -/
theorem check_januaryFromEnd :
    let table := Table.empty.insert "/ranges" "post" ranges
    let request : Descriptor :=
      ⟨"POST", "/ranges", "", [("within", january)], some (.array [january])⟩
    let request' : Descriptor :=
      ⟨"POST", "/ranges", "", [("within", januaryFromEnd)], some (.array [januaryFromEnd])⟩
    january.Reordered januaryFromEnd ∧ request.Reordered request' ∧
      (∀ schema : Schema, schema.accepts january = schema.accepts januaryFromEnd) ∧
      table.check request' = .accepted := by
  intro table request request'
  have hbody : (Json.array [january]).Reordered (.array [januaryFromEnd]) := by
    refine .array rfl fun index value value' hvalue hvalue' => ?_
    cases index with
    | zero =>
      obtain rfl := Option.some.inj hvalue
      obtain rfl := Option.some.inj hvalue'
      exact reordered_january
    | succ index => cases hvalue
  have hrequest : request.Reordered request' :=
    ⟨rfl, rfl, rfl, .cons ⟨rfl, reordered_january⟩ .nil, .some hbody⟩
  have haccepted : table.check request = .accepted := by decide
  refine ⟨reordered_january, hrequest, ?_, ?_⟩
  · intro schema
    exact check_of_reordered.1 schema january januaryFromEnd reordered_january
  · rw [← check_of_reordered.2 table request request' hrequest]
    exact haccepted

end Rules

end Gatehouse
