import Gatehouse.Proofs.Schema.Positions
import Gatehouse.Proofs.Schema.Reading
import Gatehouse.Proofs.Schema.Writing
/-!
The grammar of schemas that are written as objects.

Every such object has a `type`. Where it has `required`, that is a list of strings, and where it has
`properties`, that is an object of written schemas, whatever the type is. An array has `items` too,
a written schema; for other types it is not looked at. Where nothing that is used as a schema is
written as a list, these are the schemas that are read, and no others:

    decode value = .ok schema  ↔  Describes value schema             (decode_eq_ok_iff_describes)

The same path leads to a part of a schema and to what it is read from, and the type that is written
there is the type of the part. So it is the type alone that tells an object from an array; a
property with the name `items` is a property as any other.
-/

namespace Gatehouse

open Fields (Sorted names get?)

/-! ## Values -/

/-- No object has a name twice, at any depth. -/
inductive Json.Distinct : Json → Prop
  | null : Distinct .null
  | bool (b : Bool) : Distinct (.bool b)
  | number (n : Number) : Distinct (.number n)
  | string (s : String) : Distinct (.string s)
  | array {items : List Json} : (∀ value ∈ items, Distinct value) → Distinct (.array items)
  | object {fields : List (String × Json)} : (names fields).Nodup →
      (∀ field ∈ fields, Distinct field.2) → Distinct (.object fields)

theorem Json.distinct_object_iff {fields : List (String × Json)} :
    (Json.object fields).Distinct ↔
      (names fields).Nodup ∧ ∀ field ∈ fields, field.2.Distinct := by
  constructor
  · intro h
    cases h with
    | object hnodup heach => exact ⟨hnodup, heach⟩
  · rintro ⟨hnodup, heach⟩
    exact .object hnodup heach

/-- What is written for the part of a schema that is one step inside. -/
def Json.writtenStep? : Json → Step → Option Json
  | .object fields, .item _ => get? fields "items"
  | .object fields, .field name =>
    match get? fields "properties" with
    | some (.object members) => get? members name
    | _ => none
  | _, _ => none

/-- What is written for the part of a schema at the end of a path. -/
def Json.writtenAt? : Json → List Step → Option Json
  | value, [] => some value
  | value, step :: path =>
    match value.writtenStep? step with
    | none => none
    | some inner => inner.writtenAt? path

namespace Schema

/-! ## The grammar -/

/-- The fields that count for every type: `type` is given, `required` is a list of names or missing,
and `properties` is an object of some members or missing. -/
structure Written (fields : List (String × Json)) (type : String) (required : List String)
    (members : List (String × Json)) : Prop where
  type : get? fields "type" = some (.string type)
  required : get? fields "required" = none ∧ required = [] ∨
    get? fields "required" = some (.array (required.map .string))
  properties : get? fields "properties" = none ∧ members = [] ∨
    get? fields "properties" = some (.object members)

/-- The properties have the names of the members, and are in order. -/
structure NamedAs (members : List (String × Json)) (properties : List (String × Schema)) :
    Prop where
  sorted : Sorted properties
  names : ∀ name, name ∈ names members ↔ name ∈ names properties

/-- An object describes a schema. -/
inductive Describes : Json → Schema → Prop
  | array {fields members : List (String × Json)} {required : List String}
      {properties : List (String × Schema)} {item : Json} {items : Schema} :
      Written fields "array" required members → NamedAs members properties →
      (∀ name value schema, get? members name = some value → get? properties name = some schema →
        Describes value schema) →
      get? fields "items" = some item → Describes item items →
      Describes (.object fields) (.array items)
  | object {fields members : List (String × Json)} {required : List String}
      {properties : List (String × Schema)} :
      Written fields "object" required members → NamedAs members properties →
      (∀ name value schema, get? members name = some value → get? properties name = some schema →
        Describes value schema) →
      Describes (.object fields) (.object required properties)
  | leaf {fields members : List (String × Json)} {type : String} {required : List String}
      {properties : List (String × Schema)} :
      type ≠ "array" → type ≠ "object" →
      Written fields type required members → NamedAs members properties →
      (∀ name value schema, get? members name = some value → get? properties name = some schema →
        Describes value schema) →
      Describes (.object fields) (leaf type)

/-! ## Lemmas: one object -/

theorem texts_eq_ok_iff {values : List Json} {texts' : List String} :
    texts values = .ok texts' ↔ values = texts'.map .string := by
  constructor
  · intro h
    induction values generalizing texts' with
    | nil =>
      obtain rfl := Except.ok.inj h
      rfl
    | cons value values ih =>
      cases value with
      | string s =>
        rw [texts] at h
        cases hrest : texts values with
        | error e =>
          rw [hrest] at h
          cases h
        | ok rest =>
          rw [hrest] at h
          obtain rfl := Except.ok.inj h
          rw [List.map_cons, ih hrest]
      | null | bool | number | array | object => simp [texts, mistyped] at h
  · rintro rfl
    exact texts_map texts'

theorem reads_required_iff {found : Option Json} {required : List String} :
    Reads requiredOf [] found required ↔
      found = none ∧ required = [] ∨ found = some (.array (required.map .string)) := by
  cases found with
  | none => simp [Reads]
  | some value => cases value <;> simp [Reads, requiredOf, mistyped, texts_eq_ok_iff]

theorem reads_properties_iff {found : Option Json} {properties : List (String × Schema)} :
    Reads propertiesOf [] found properties ↔ ∃ members,
      (found = none ∧ members = [] ∨ found = some (.object members)) ∧
      decodeAll members [] = .ok properties := by
  cases found with
  | none => simp [Reads, decodeAll, eq_comm]
  | some value => cases value <;> simp [Reads, propertiesOf, mistyped]

/-- One object is read by its type, and all that is written under `properties` is read. -/
theorem decode_object_iff_written {fields : List (String × Json)} (h : (names fields).Nodup)
    {schema : Schema} :
    decode (.object fields) = .ok schema ↔ ∃ type required members properties,
      Written fields type required members ∧ decodeAll members [] = .ok properties ∧
      Makes (get? fields "items") required properties type schema := by
  rw [decode_object_eq_ok_iff h]
  simp only [reads_required_iff, reads_properties_iff]
  constructor
  · rintro ⟨type, required, properties, htype, hrequired, ⟨members, hmembers, hread⟩, hmakes⟩
    exact ⟨type, required, members, properties, ⟨htype, hrequired, hmembers⟩, hread, hmakes⟩
  · rintro ⟨type, required, members, properties, hwritten, hread, hmakes⟩
    exact ⟨type, required, properties, hwritten.type, hwritten.required,
      ⟨members, hwritten.properties, hread⟩, hmakes⟩

/-- Members are read iff there are properties of their names, each of which is read. -/
theorem decodeAll_iff_namedAs {members : List (String × Json)} (h : (names members).Nodup)
    {properties : List (String × Schema)} :
    decodeAll members [] = .ok properties ↔ NamedAs members properties ∧
      ∀ name value schema, get? members name = some value → get? properties name = some schema →
        decode value = .ok schema := by
  rw [decodeAll_eq_ok_iff h sorted_nil]
  constructor
  · rintro ⟨hsorted, hkept, hread⟩
    refine ⟨⟨hsorted, fun name => ?_⟩, fun name value schema hvalue hschema => ?_⟩
    · cases hvalue : get? members name with
      | none =>
        have hnone := hkept name hvalue
        rw [Fields.get?_nil] at hnone
        exact iff_of_false (Fields.get?_eq_none_iff.mp hvalue) (Fields.get?_eq_none_iff.mp hnone)
      | some value =>
        obtain ⟨schema, -, hschema⟩ := hread name value hvalue
        exact iff_of_true (Fields.mem_names_iff.mpr ⟨_, hvalue⟩)
          (Fields.mem_names_iff.mpr ⟨_, hschema⟩)
    · obtain ⟨schema', hdecode, hschema'⟩ := hread name value hvalue
      rw [hschema] at hschema'
      obtain rfl := Option.some.inj hschema'
      exact hdecode
  · rintro ⟨⟨hsorted, hnames⟩, hread⟩
    refine ⟨hsorted, fun name hnone => ?_, fun name value hvalue => ?_⟩
    · rw [Fields.get?_nil, Fields.get?_eq_none_iff, ← hnames]
      exact Fields.get?_eq_none_iff.mp hnone
    · obtain ⟨schema, hschema⟩ := Fields.mem_names_iff.mp
        ((hnames name).mp (Fields.mem_names_iff.mpr ⟨value, hvalue⟩))
      exact ⟨schema, hread name value schema hvalue hschema, hschema⟩

/-! ## Lemmas: what is used -/

/-- What an object uses stands under `items`, if its type is `array`, or is one of its members. -/
theorem Uses.of_object {fields : List (String × Json)} {inner : Json} (h : (names fields).Nodup)
    (huses : Uses (.object fields) inner) :
    get? fields "type" = some (.string "array") ∧ get? fields "items" = some inner ∨
    ∃ properties name, get? fields "properties" = some (.object properties) ∧
      (name, inner) ∈ properties := by
  cases huses with
  | items hrecord htype hitems =>
    cases hrecord
    exact .inl ⟨(lastUnder_iff h).mp htype, (lastUnder_iff h).mp hitems⟩
  | property hrecord hproperties hinner =>
    cases hrecord
    exact .inr ⟨_, _, (Fields.get?_eq_some_iff_mem_of_nodup h).mpr hproperties, hinner⟩

/-- What is used by something that a value uses is used within the value. -/
theorem Uses.within {value inner innermost : Json} (h : Uses value inner)
    (hinner : Within inner innermost) : Within value innermost := by
  induction hinner with
  | itself => exact .deeper .itself h
  | deeper _ huses ih => exact .deeper ih huses

section

variable {fields members : List (String × Json)} {type name : String} {required : List String}
  {value : Json}

/-- A member is used, whatever the type is. -/
theorem Written.uses_member (h : Written fields type required members)
    (hvalue : get? members name = some value) : Uses (.object fields) value := by
  rcases h.properties with ⟨-, rfl⟩ | hproperties
  · cases hvalue
  · exact .property .object (Fields.mem_of_get? hproperties) (Fields.mem_of_get? hvalue)

theorem Written.uses_item (hdistinct : (names fields).Nodup)
    (h : Written fields "array" required members) (hvalue : get? fields "items" = some value) :
    Uses (.object fields) value :=
  .items .object ((lastUnder_iff hdistinct).mpr h.type) ((lastUnder_iff hdistinct).mpr hvalue)

theorem Written.sizeOf_member_lt (h : Written fields type required members)
    (hvalue : get? members name = some value) : sizeOf value < sizeOf (Json.object fields) := by
  rcases h.properties with ⟨-, rfl⟩ | hproperties
  · cases hvalue
  · exact Nat.lt_trans (sizeOf_lt_of_get? hvalue) (sizeOf_lt_of_get? hproperties)

theorem distinct_of_get? (h : (Json.object fields).Distinct)
    (hvalue : get? fields name = some value) : value.Distinct :=
  (Json.distinct_object_iff.mp h).2 _ (Fields.mem_of_get? hvalue)

theorem nodup_of_distinct (h : (Json.object fields).Distinct) : (names fields).Nodup :=
  (Json.distinct_object_iff.mp h).1

theorem Written.nodup_members (hdistinct : (Json.object fields).Distinct)
    (h : Written fields type required members) : (names members).Nodup := by
  rcases h.properties with ⟨-, rfl⟩ | hproperties
  · exact List.nodup_nil
  · exact nodup_of_distinct (distinct_of_get? hdistinct hproperties)

theorem Written.distinct_member (hdistinct : (Json.object fields).Distinct)
    (h : Written fields type required members) (hvalue : get? members name = some value) :
    value.Distinct := by
  rcases h.properties with ⟨-, rfl⟩ | hproperties
  · cases hvalue
  · exact distinct_of_get? (distinct_of_get? hdistinct hproperties) hvalue

end

/-! ## The two directions -/

/-- An object is read if its members are, and if what it makes up of them is a schema. -/
theorem Written.decode_eq {fields members : List (String × Json)} {type : String}
    {required : List String} {properties : List (String × Schema)} {schema : Schema}
    (h : Written fields type required members) (hdistinct : (Json.object fields).Distinct)
    (hnamed : NamedAs members properties)
    (heach : ∀ name value schema, get? members name = some value →
      get? properties name = some schema → value.Distinct → decode value = .ok schema)
    (hmakes : Makes (get? fields "items") required properties type schema) :
    decode (.object fields) = .ok schema := by
  have hread := (decodeAll_iff_namedAs (h.nodup_members hdistinct)).mpr ⟨hnamed,
    fun name value schema hvalue hschema =>
      heach name value schema hvalue hschema (h.distinct_member hdistinct hvalue)⟩
  exact (decode_object_iff_written (nodup_of_distinct hdistinct)).mpr
    ⟨type, required, members, properties, h, hread, hmakes⟩

/-- What is described is read. -/
theorem Describes.decode_eq {value : Json} {schema : Schema} (h : Describes value schema)
    (hdistinct : value.Distinct) : decode value = .ok schema := by
  induction h with
  | array hwritten hnamed _ hitem _ ih ihitem =>
    have hitems := ihitem (distinct_of_get? hdistinct hitem)
    exact hwritten.decode_eq hdistinct hnamed ih (.array hitem hitems)
  | object hwritten hnamed _ ih => exact hwritten.decode_eq hdistinct hnamed ih .object
  | leaf harray hobject hwritten hnamed _ ih =>
    exact hwritten.decode_eq hdistinct hnamed ih (.leaf harray hobject)

/-- What is read is described, where no list is used as a schema. The induction is on the value,
since what it uses is smaller. -/
theorem describes_of_decode {value : Json} (hdistinct : value.Distinct)
    (hshape : ∀ inner values, Within value inner → inner ≠ .array values) {schema : Schema}
    (h : decode value = .ok schema) : Describes value schema := by
  obtain ⟨fields, hrecord⟩ := exists_record_of_decode h
  cases hrecord with
  | list => exact absurd rfl (hshape _ _ .itself)
  | object =>
    obtain ⟨type, required, members, properties, hwritten, hread, hmakes⟩ :=
      (decode_object_iff_written (nodup_of_distinct hdistinct)).mp h
    obtain ⟨hnamed, heach⟩ := (decodeAll_iff_namedAs (hwritten.nodup_members hdistinct)).mp hread
    have hmembers : ∀ name value schema, get? members name = some value →
        get? properties name = some schema → Describes value schema := by
      intro name value schema hvalue hschema
      have hlt := hwritten.sizeOf_member_lt hvalue
      exact describes_of_decode (hwritten.distinct_member hdistinct hvalue)
        (fun inner values hinner => hshape inner values ((hwritten.uses_member hvalue).within hinner))
        (heach name value schema hvalue hschema)
    cases hmakes with
    | array hitem hitems =>
      have hlt := sizeOf_lt_of_get? hitem
      have huses := hwritten.uses_item (nodup_of_distinct hdistinct) hitem
      exact .array hwritten hnamed hmembers hitem (describes_of_decode
        (distinct_of_get? hdistinct hitem)
        (fun inner values hinner => hshape inner values (huses.within hinner)) hitems)
    | object => exact .object hwritten hnamed hmembers
    | leaf harray hobject => exact .leaf harray hobject hwritten hnamed hmembers
termination_by sizeOf value

/-! ## Positions -/

theorem writtenAt?_cons {value inner : Json} {step : Step}
    (h : value.writtenStep? step = some inner) (path : List Step) :
    value.writtenAt? (step :: path) = inner.writtenAt? path := by
  simp only [Json.writtenAt?, h]

theorem typeName_leaf (type : String) : (leaf type).typeName = type := by
  unfold leaf
  split
  · next h => rw [h, typeName]
  · split
    · next h => rw [h, typeName]
    · rfl

theorem leaf_ne_object (type : String) (required : List String)
    (properties : List (String × Schema)) : leaf type ≠ .object required properties := by
  unfold leaf
  split
  · exact Schema.noConfusion
  · split <;> exact Schema.noConfusion

theorem step?_leaf (type : String) (step : Step) : (leaf type).step? step = none := by
  unfold leaf
  split
  · rfl
  · split <;> rfl

/-- The type that is written is the type of the schema, and it alone tells object schemas. -/
structure Types (fields : List (String × Json)) (schema : Schema) : Prop where
  typeName : get? fields "type" = some (.string schema.typeName)
  object : get? fields "type" = some (.string "object") ↔
    ∃ required properties, schema = .object required properties

theorem Describes.types {value : Json} {schema : Schema} (h : Describes value schema) :
    ∃ fields, value = .object fields ∧ Types fields schema := by
  cases h with
  | array hwritten => exact ⟨_, rfl, hwritten.type, by simp [hwritten.type]⟩
  | object hwritten => exact ⟨_, rfl, hwritten.type, by simp [hwritten.type]⟩
  | leaf _ hobject hwritten =>
    exact ⟨_, rfl, by rw [typeName_leaf, hwritten.type],
      by simp [hwritten.type, hobject, leaf_ne_object]⟩

/-- One step inside a schema leads to what is described by what is written there. -/
theorem Describes.step? {value : Json} {schema sub : Schema} (h : Describes value schema)
    {step : Step} (hstep : schema.step? step = some sub) :
    ∃ inner, value.writtenStep? step = some inner ∧ Describes inner sub := by
  cases h with
  | array _ _ _ hitem hitems =>
    cases step with
    | item index =>
      obtain rfl := Option.some.inj hstep
      exact ⟨_, hitem, hitems⟩
    | field name => cases hstep
  | object hwritten hnamed hmembers =>
    cases step with
    | item index => cases hstep
    | field name =>
      have hname := (hnamed.names name).mpr (Fields.mem_names_iff.mpr ⟨sub, hstep⟩)
      obtain ⟨value, hvalue⟩ := Fields.mem_names_iff.mp hname
      refine ⟨value, ?_, hmembers name value sub hvalue hstep⟩
      rcases hwritten.properties with ⟨-, rfl⟩ | hproperties
      · cases hvalue
      · simp only [Json.writtenStep?, hproperties, hvalue]
  | leaf =>
    rw [step?_leaf] at hstep
    cases hstep

/-- So does a path. -/
theorem Describes.at? {value : Json} {schema sub : Schema} (h : Describes value schema)
    {path : List Step} (hsub : schema.at? path = some sub) :
    ∃ inner, value.writtenAt? path = some inner ∧ Describes inner sub := by
  induction path generalizing value schema with
  | nil =>
    obtain rfl := Option.some.inj hsub
    exact ⟨value, rfl, h⟩
  | cons step path ih =>
    cases hstep : schema.step? step with
    | none => simp [Schema.at?, hstep] at hsub
    | some next =>
      rw [schema_at?_cons hstep] at hsub
      obtain ⟨inner, hinner, hnext⟩ := h.step? hstep
      rw [writtenAt?_cons hinner]
      exact ih hnext hsub

/-! ## The theorem -/

/-- **The grammar of schemas.** Let no object in a value have a name twice, and let nothing that is
used as a schema in it be a list. Then a schema is read from the value iff the value describes it.
At every position of the schema the type is the one that is written there, and the part there is an
object schema iff that is `object`, whatever the names of its properties are. -/
theorem decode_eq_ok_iff_describes (value : Json) (hdistinct : value.Distinct)
    (hshape : ∀ inner values, Within value inner → inner ≠ .array values) (schema : Schema) :
    (decode value = .ok schema ↔ Describes value schema) ∧
    (decode value = .ok schema → ∀ path sub, schema.at? path = some sub →
      ∃ fields, value.writtenAt? path = some (.object fields) ∧ Types fields sub) := by
  refine ⟨⟨describes_of_decode hdistinct hshape, fun h => h.decode_eq hdistinct⟩,
    fun h path sub hsub => ?_⟩
  obtain ⟨inner, hinner, hdescribes⟩ := (describes_of_decode hdistinct hshape h).at? hsub
  obtain ⟨fields, rfl, htypes⟩ := hdescribes.types
  exact ⟨fields, hinner, htypes⟩

/-- The items of an array schema: a leaf of an unknown type, for which `items` has no meaning. -/
def writtenFlags : Json :=
  .object [("items", .object [("items", .bool true), ("type", .string "boolean")]),
    ("type", .string "array")]

/-- An object schema with a property that has the name `items`, and that is required twice. -/
def writtenBasket : Json :=
  .object [("required", .array [.string "items", .string "items"]), ("type", .string "object"),
    ("properties", .object [("items", writtenFlags)])]

theorem distinct_writtenBasket : writtenBasket.Distinct := by
  have hnames : (Json.array [.string "items", .string "items"]).Distinct := .array fun value h => by
    simp only [List.mem_cons, List.not_mem_nil, or_false, or_self] at h
    exact h ▸ .string _
  simp [writtenBasket, writtenFlags, Json.distinct_object_iff, names, hnames, Json.Distinct.string,
    Json.Distinct.bool]

/-- What is used in it: the property, the items of that, and nothing else. -/
theorem within_writtenBasket {inner : Json} (h : Within writtenBasket inner) :
    ∃ fields, inner = .object fields := by
  have hall : inner = writtenBasket ∨ inner = writtenFlags ∨
      inner = .object [("items", .bool true), ("type", .string "boolean")] := by
    induction h with
    | itself => exact .inl rfl
    | deeper _ huses ih =>
      rcases ih with rfl | rfl | rfl
      · rcases huses.of_object (by decide) with ⟨htype, -⟩ | ⟨properties, name, hproperties, hmem⟩
        · simp [get?] at htype
        · cases hproperties
          exact .inr (.inl (Prod.mk.inj (List.mem_singleton.mp hmem)).2)
      · rcases huses.of_object (by decide) with ⟨-, hitems⟩ | ⟨_, _, hproperties, -⟩
        · exact .inr (.inr (Option.some.inj hitems).symm)
        · cases hproperties
      · rcases huses.of_object (by decide) with ⟨htype, -⟩ | ⟨_, _, hproperties, -⟩
        · simp [get?] at htype
        · cases hproperties
  rcases hall with rfl | rfl | rfl <;> exact ⟨_, rfl⟩

/-- The property is a property, and the object an object. -/
theorem describes_writtenBasket :
    writtenBasket.Distinct ∧
    (∀ inner values, Within writtenBasket inner → inner ≠ .array values) ∧
    Describes writtenBasket
      (.object ["items", "items"] [("items", .array (.unrecognized "boolean"))]) ∧
    ∃ fields, writtenBasket.writtenAt? [.field "items"] = some (.object fields) ∧
      Types fields (.array (.unrecognized "boolean")) := by
  have hshape : ∀ inner values, Within writtenBasket inner → inner ≠ .array values := by
    rintro inner values h rfl
    obtain ⟨fields, hfields⟩ := within_writtenBasket h
    cases hfields
  have hread : decode writtenBasket =
      .ok (.object ["items", "items"] [("items", .array (.unrecognized "boolean"))]) := by cbv
  have hmain := decode_eq_ok_iff_describes writtenBasket distinct_writtenBasket hshape
    (.object ["items", "items"] [("items", .array (.unrecognized "boolean"))])
  exact ⟨distinct_writtenBasket, hshape, hmain.1.mp hread, hmain.2 hread [.field "items"] _ rfl⟩

end Schema

end Gatehouse
