import Gatehouse.Proofs.Schema.Reading
/-!
What does not matter in a written schema.

A schema has four names with a meaning. What stands under other names is an annotation, and the
order of names has no meaning, neither in a schema nor among its properties. So a written schema may
be restyled, in itself and in whatever it uses as a schema, and is read as before:

    Restyled value value'  →  decode value = .ok schema  ↔  decode value' = .ok schema
                                                               (decode_restyled)

The four names mean something in a schema alone: a property may have any of them as its name.
-/

namespace Gatehouse.Schema

open Fields (names get?)

/-! ## Restyling -/

/-- Two values are records that differ in what stands under one name, and have the same under all
others. -/
inductive DiffersAt (name : String) (inner inner' : Json) : Json → Json → Prop
  | record {value value' : Json} {fields fields' : List (String × Json)} :
      Record value fields → Record value' fields' →
      (names fields).Nodup → (names fields').Nodup →
      (∀ other, other ≠ name → get? fields other = get? fields' other) →
      get? fields name = some inner → get? fields' name = some inner' →
      DiffersAt name inner inner' value value'

/-- A value becomes another one by any number of changes that have no meaning, at any depth: names
are put in another order, or names without a meaning are added or removed, in a schema, in its items
or in one of its properties; or the properties are put in another order. -/
inductive Restyled : Json → Json → Prop
  | refl (value : Json) : Restyled value value
  | trans {value value' value'' : Json} :
      Restyled value value' → Restyled value' value'' → Restyled value value''
  | names {fields fields' : List (String × Json)} :
      (names fields).Nodup → (names fields').Nodup →
      (∀ name ∈ fieldNames, get? fields name = get? fields' name) →
      Restyled (.object fields) (.object fields')
  | order {value value' : Json} {properties properties' : List (String × Json)} :
      DiffersAt "properties" (.object properties) (.object properties') value value' →
      (Fields.names properties).Nodup → properties.Perm properties' → Restyled value value'
  | items {value value' inner inner' : Json} :
      DiffersAt "items" inner inner' value value' → Restyled inner inner' → Restyled value value'
  | property {value value' inner inner' : Json} {name : String}
      {properties properties' : List (String × Json)} :
      DiffersAt "properties" (.object properties) (.object properties') value value' →
      DiffersAt name inner inner' (.object properties) (.object properties') →
      Restyled inner inner' → Restyled value value'

/-! ## Lemmas: one change -/

/-- The two values are read as the same. -/
def ReadAlike (value value' : Json) : Prop :=
  ∀ schema, decode value = .ok schema ↔ decode value' = .ok schema

variable {value value' inner inner' : Json} {name : String}

theorem Makes.of_alike (h : ReadAlike inner inner') {required : List String}
    {properties : List (String × Schema)} {type : String} {schema : Schema}
    (hmakes : Makes (some inner) required properties type schema) :
    Makes (some inner') required properties type schema := by
  cases hmakes with
  | array hitem hitems =>
    obtain rfl := Option.some.inj hitem
    exact .array rfl ((h _).mp hitems)
  | object => exact .object
  | leaf harray hobject => exact .leaf harray hobject

theorem ReadAlike.symm (h : ReadAlike value value') : ReadAlike value' value :=
  fun schema => (h schema).symm

/-- Items that are read alike make no difference. -/
theorem DiffersAt.readAlike_items (h : DiffersAt "items" inner inner' value value')
    (hinner : ReadAlike inner inner') : ReadAlike value value' := by
  cases h with
  | record hrecord hrecord' hnodup hnodup' hsame hitem hitem' =>
    intro schema
    rw [decode_of_record hrecord, decode_of_record hrecord']
    refine decode_congr hnodup hnodup' (hsame _ (by decide)) (hsame _ (by decide))
      (fun required properties type schema => ?_) (fun properties => ?_) schema
    · rw [hitem, hitem']
      exact ⟨.of_alike hinner, .of_alike hinner.symm⟩
    · rw [hsame _ (by decide)]

/-- Nor do properties that are read alike. -/
theorem DiffersAt.readAlike_properties (h : DiffersAt "properties" inner inner' value value')
    (hinner : ∀ properties, propertiesOf inner = .ok properties ↔
      propertiesOf inner' = .ok properties) : ReadAlike value value' := by
  cases h with
  | record hrecord hrecord' hnodup hnodup' hsame hfound hfound' =>
    intro schema
    rw [decode_of_record hrecord, decode_of_record hrecord']
    refine decode_congr hnodup hnodup' (hsame _ (by decide)) (hsame _ (by decide))
      (fun required properties type schema => ?_) (fun properties => ?_) schema
    · rw [hsame _ (by decide)]
    · rw [hfound, hfound']
      exact hinner properties

/-- The order of properties makes no difference. -/
theorem propertiesOf_perm {properties properties' : List (String × Json)}
    (h : (names properties).Nodup) (hperm : properties.Perm properties')
    (result : List (String × Schema)) :
    propertiesOf (.object properties) = .ok result ↔
      propertiesOf (.object properties') = .ok result := by
  have h' : (names properties').Nodup := (hperm.map Prod.fst).nodup_iff.mp h
  simp only [propertiesOf, decodeAll_eq_ok_iff h sorted_nil, decodeAll_eq_ok_iff h' sorted_nil,
    readsAll_iff, Fields.get?_of_perm h hperm]

theorem DiffersAt.symm (h : DiffersAt name inner inner' value value') :
    DiffersAt name inner' inner value' value := by
  cases h with
  | record hrecord hrecord' hnodup hnodup' hsame hfound hfound' =>
    exact .record hrecord' hrecord hnodup' hnodup (fun other hne => (hsame other hne).symm)
      hfound' hfound

theorem ReadsAll.of_differsAt {properties properties' : List (String × Json)}
    (h : DiffersAt name inner inner' (.object properties) (.object properties'))
    (hinner : ReadAlike inner inner') {before result : List (String × Schema)}
    (hreads : ReadsAll properties before result) : ReadsAll properties' before result := by
  cases h with
  | record hrecord hrecord' _ _ hsame hfound hfound' =>
    cases hrecord
    cases hrecord'
    refine ⟨hreads.sorted, fun other hnone => ?_, fun other value hvalue => ?_⟩
    · have hne : other ≠ name := by
        rintro rfl
        rw [hfound'] at hnone
        cases hnone
      exact hreads.kept other ((hsame other hne).trans hnone)
    · by_cases heq : other = name
      · subst heq
        obtain rfl := Option.some.inj (hfound'.symm.trans hvalue)
        obtain ⟨schema, hschema, hget⟩ := hreads.read _ _ hfound
        exact ⟨schema, (hinner schema).mp hschema, hget⟩
      · exact hreads.read other value ((hsame other heq).trans hvalue)

theorem DiffersAt.nodup {properties properties' : List (String × Json)}
    (h : DiffersAt name inner inner' (.object properties) (.object properties')) :
    (names properties).Nodup := by
  cases h with
  | record hrecord _ hnodup =>
    cases hrecord
    exact hnodup

/-- Nor does one property that is read alike. -/
theorem propertiesOf_differsAt {properties properties' : List (String × Json)}
    (h : DiffersAt name inner inner' (.object properties) (.object properties'))
    (hinner : ReadAlike inner inner') (result : List (String × Schema)) :
    propertiesOf (.object properties) = .ok result ↔
      propertiesOf (.object properties') = .ok result := by
  simp only [propertiesOf, decodeAll_eq_ok_iff h.nodup sorted_nil,
    decodeAll_eq_ok_iff h.symm.nodup sorted_nil]
  exact ⟨.of_differsAt h hinner, .of_differsAt h.symm hinner.symm⟩

/-- What is restyled is read alike, whatever the changes are. -/
theorem Restyled.readAlike (h : Restyled value value') : ReadAlike value value' := by
  induction h with
  | refl value => exact fun _ => Iff.rfl
  | trans _ _ ih ih' => exact fun schema => (ih schema).trans (ih' schema)
  | names hnodup hnodup' hsame => exact decode_of_fieldNames hnodup hnodup' hsame
  | order hdiffers hnodup hperm =>
    exact hdiffers.readAlike_properties (propertiesOf_perm hnodup hperm)
  | items hdiffers _ ih => exact hdiffers.readAlike_items ih
  | property hdiffers hproperty _ ih =>
    exact hdiffers.readAlike_properties (propertiesOf_differsAt hproperty ih)

/-! ## The theorem -/

/-- **Style has no meaning.** Of a written schema and a restyled one, either both are read, as the
same schema, or neither is. So where they are read they accept the same values. -/
theorem decode_restyled {value value' : Json} (h : Restyled value value') :
    ((∃ schema, decode value = .ok schema ∧ decode value' = .ok schema) ∨
      (∃ e, decode value = .error e) ∧ ∃ e, decode value' = .error e) ∧
    ∀ schema schema', decode value = .ok schema → decode value' = .ok schema' →
      ∀ other, schema.accepts other = schema'.accepts other := by
  have halike := h.readAlike
  constructor
  · cases hread : decode value with
    | ok schema => exact .inl ⟨schema, rfl, (halike schema).mp hread⟩
    | error e =>
      refine .inr ⟨⟨e, rfl⟩, ?_⟩
      cases hread' : decode value' with
      | ok schema =>
        rw [(halike schema).mpr hread'] at hread
        cases hread
      | error e' => exact ⟨e', rfl⟩
  · intro schema schema' hread hread' other
    rw [(halike schema).mp hread] at hread'
    rw [Except.ok.inj hread']

/-- A list of strings, as it is written in short. -/
def shortTags : Json :=
  .object [("type", .string "array"), ("items", .object [("type", .string "string")])]

/-- The same with annotations, and in another order. -/
def longTags : Json :=
  .object [("items", .object [("format", .string "word"), ("type", .string "string")]),
    ("note", .null), ("type", .string "array")]

/-- An object with properties that have the names `items` and `type`. -/
def shortForm : Json :=
  .object [("type", .string "object"),
    ("properties", .object [("items", .object [("type", .string "integer")]), ("type", shortTags)])]

/-- The same with annotations, and in another order. -/
def longForm : Json :=
  .object [("properties",
      .object [("type", longTags), ("items", .object [("type", .string "integer")])]),
    ("title", .string "form"), ("type", .string "object")]

/-- One value of an object is another one. -/
theorem differsAt_second {other name : String} {first inner inner' : Json} (h : other ≠ name) :
    DiffersAt name inner inner' (.object [(other, first), (name, inner)])
      (.object [(other, first), (name, inner')]) := by
  have hnodup : [other, name].Nodup := by simp [h]
  refine .record .object .object hnodup hnodup (fun key hkey => ?_) ?_ ?_
  · simp [get?, hkey.symm]
  · simp [get?, h]
  · simp [get?, h]

theorem restyled_tags : Restyled shortTags longTags := by
  have hword : Restyled (.object [("type", .string "string")])
      (.object [("format", .string "word"), ("type", .string "string")]) :=
    .names (by decide) (by decide) (by simp [fieldNames, get?])
  refine .trans (.items (differsAt_second (by decide)) hword) ?_
  exact .names (by decide) (by decide) (by simp [fieldNames, get?])

theorem restyled_form : Restyled shortForm longForm := by
  refine .trans (.property (differsAt_second (by decide)) (differsAt_second (by decide))
    restyled_tags) (.trans (.order (differsAt_second (by decide)) (by decide) (.swap _ _ [])) ?_)
  exact .names (by decide) (by decide) (by simp [fieldNames, get?])

/-- Both are read as the same object schema. -/
theorem decode_longForm :
    Restyled shortForm longForm ∧ ∃ schema, decode shortForm = .ok schema ∧
      decode longForm = .ok schema ∧
      schema.accepts (.object [("type", .array [.string "a"]), ("items", .string "7")]) = true := by
  have hread : decode shortForm =
      .ok (.object [] [("items", .integer), ("type", .array .string)]) := by cbv
  rcases (decode_restyled restyled_form).1 with ⟨schema, hshort, hlong⟩ | ⟨⟨e, herror⟩, -⟩
  · obtain rfl := Except.ok.inj (hread.symm.trans hshort)
    exact ⟨restyled_form, _, hread, hlong, by decide⟩
  · rw [hread] at herror
    cases herror

end Gatehouse.Schema
