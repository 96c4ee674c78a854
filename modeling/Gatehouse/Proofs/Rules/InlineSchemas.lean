import Gatehouse.Proofs.Rules.LoadFailure
import Gatehouse.Proofs.Schema.Reading
/-!
Two ways to write the schema of a parameter.

A schema stands under `schema`, or inline, among the fields of the parameter. What is read is the
same, also if it is not a schema or if nothing is written:

    {name, in, schema: {..}}  and  {name, in, ..}  →  the same parameter,
                                   or both an error in the schema of this name   (ofJson_inline)

Inline, `required` does double duty. Only a list belongs to the schema, so a parameter that says
whether it is required says nothing about its schema, and nor does any other field.
-/

namespace Gatehouse.Rules.Parameter

open Fields (names get?)
open Schema (fieldNames lastUnder_iff)

/-! ## The two ways -/

/-- An object that is written for a schema, so that it can stand inline: no name is there twice, all
are names of a schema, and `required` is a list where it is given. -/
structure Inlinable (schema : List (String × Json)) : Prop where
  distinct : (names schema).Nodup
  known : ∀ name ∈ names schema, name ∈ fieldNames
  required : ∀ value, get? schema "required" = some value → ∃ values, value = .array values

/-- Fields that say nothing about the schema when they stand inline with it: `required` as a flag,
if the schema has none of its own, and fields that no part of a parameter is read from. No name is
there twice. -/
structure Idle (schema extra : List (String × Json)) : Prop where
  distinct : (names extra).Nodup
  each : ∀ name value, (name, value) ∈ extra →
    (name = "required" ∧ "required" ∉ names schema ∧ ∃ b, value = .bool b) ∨
    name ∉ ["name", "in", "schema"] ++ fieldNames

/-! ## Lemmas: a parameter by its names -/

/-- The location is read from the last field for it. -/
theorem Parts.location_of_foldlM {fields : List (String × Json)} {parts : Parts}
    (h : fields.foldlM Parts.add Parts.empty = .ok parts) {location : Location}
    (hlocation : parts.location = some location) :
    ∃ value, Schema.LastUnder fields "in" value ∧ locationOf value = .ok location := by
  unfold Schema.LastUnder
  induction fields using List.reverseRecOn generalizing parts with
  | nil =>
    obtain rfl := Except.ok.inj h
    cases hlocation
  | append_singleton fields field ih =>
    obtain ⟨key, value⟩ := field
    rw [List.foldlM_append, bind_eq_ok_iff] at h
    obtain ⟨before, hbefore, hadd⟩ := h
    have hfield : (before.add (key, value) >>= pure) = .ok parts := hadd
    rw [bind_pure] at hfield
    simp only [isLast_concat_iff]
    rcases Parts.add_eq_ok_iff.mp hfield with ⟨rfl, text, -, rfl⟩ | ⟨rfl, found, hfound, rfl⟩ |
      ⟨rfl, rfl⟩ | ⟨-, hkey, -, rfl⟩
    · simpa using ih hbefore hlocation
    · obtain rfl := Option.some.inj hlocation
      exact ⟨value, by simp, hfound⟩
    · simpa using ih hbefore hlocation
    · simpa [hkey] using ih hbefore hlocation

/-- What the fields give for the schema. -/
def written (fields : List (String × Json)) : Json :=
  ((get? fields "schema").bind given?).getD (inlineSchema fields)

/-- A parameter with a name and a location is read by its schema. -/
theorem ofJson_of_names {fields : List (String × Json)} {name location : String}
    (h : (names fields).Nodup) (hname : get? fields "name" = some (.string name))
    (hlocation : get? fields "in" = some (.string location)) :
    ofJson (.object fields) =
      match schemaOf (written fields) with
      | .error e => .error (.schema name e)
      | .ok schema => .ok ⟨name, .ofName location, schema⟩ := by
  have hunique : ∀ {key value value'}, get? fields key = some value → (key, value') ∈ fields →
      value' = value := fun hget hmem =>
    Option.some.inj (((Fields.get?_eq_some_iff_mem_of_nodup h).mpr hmem).symm.trans hget)
  obtain ⟨parts, hparts⟩ : ∃ parts, fields.foldlM Parts.add Parts.empty = .ok parts :=
    Parts.exists_foldlM_iff.mpr ⟨fun value hmem => ⟨name, hunique hname hmem⟩,
      fun value hmem => ⟨.ofName location, by rw [hunique hlocation hmem, locationOf]⟩⟩
  have hof := Parts.of_foldlM hparts
  have hnamed : parts.name = name := by
    have hnames := hof.name
    generalize parts.name = found at hnames
    cases hnames with
    | unnamed hnone => exact absurd (Fields.mem_of_get? hname) (hnone _)
    | named hlast =>
      have hget := (lastUnder_iff h).mp hlast
      rw [hname] at hget
      exact (Json.string.inj (Option.some.inj hget)).symm
  have hlocated : parts.location = some (.ofName location) := by
    obtain ⟨found, hfound⟩ := hof.location.mpr ⟨_, Fields.mem_of_get? hlocation⟩
    obtain ⟨value, hlast, hvalue⟩ := Parts.location_of_foldlM hparts hfound
    rw [hunique hlocation hlast.mem.1, locationOf] at hvalue
    rw [hfound, ← Except.ok.inj hvalue]
  have hwritten : parts.schema = (get? fields "schema").bind given? := by
    refine Option.ext fun value => ?_
    rw [hof.schema, Option.bind_eq_some_iff]
    constructor
    · rintro ⟨hlast, hnull⟩
      exact ⟨value, (lastUnder_iff h).mp hlast, given?_eq_some_iff.mpr ⟨rfl, hnull⟩⟩
    · rintro ⟨found, hget, hfound⟩
      obtain ⟨rfl, hnull⟩ := given?_eq_some_iff.mp hfound
      exact ⟨(lastUnder_iff h).mpr hget, hnull⟩
  rw [written, ← hwritten]
  cases hread : schemaOf (parts.schema.getD (inlineSchema fields)) <;>
    simp only [ofJson, hparts, hlocated, hnamed, hread]

/-! ## Lemmas: what is written inline -/

/-- The fields for names, as far as something is found for them. -/
def gather (found : String → Option Json) (ns : List String) : List (String × Json) :=
  ns.filterMap fun name => (found name).map fun value => (name, value)

theorem get?_gather (found : String → Option Json) (ns : List String) (name : String) :
    get? (gather found ns) name = if name ∈ ns then found name else none := by
  unfold gather
  induction ns with
  | nil => rfl
  | cons n ns ih =>
    rw [List.filterMap_cons]
    by_cases hn : name = n
    · subst hn
      cases hfound : found name with
      | none => simp [ih, hfound]
      | some value => simp [get?]
    · cases hfound : found n with
      | none => simp [ih, hn]
      | some value => simp [get?, ih, hn, Ne.symm hn]

theorem names_gather_sublist (found : String → Option Json) (ns : List String) :
    (names (gather found ns)).Sublist ns := by
  unfold gather names
  induction ns with
  | nil => exact .slnil
  | cons n ns ih =>
    rw [List.filterMap_cons]
    cases found n with
    | none => exact ih.cons n
    | some value => exact ih.cons_cons n

/-- The value, if it is a list. -/
def listed? : Json → Option Json
  | .array values => some (.array values)
  | _ => none

/-- What fields give inline for a schema, by name: a list for `required`, and anything for the other
names. -/
def inlineUnder (fields : List (String × Json)) (name : String) : Option Json :=
  if name = "required" then (get? fields name).bind listed? else get? fields name

/-- The names of a schema, in the order in which an inline schema is put together. -/
def inlineNames : List String :=
  ["type", "items", "properties", "required"]

theorem inlineSchema_eq_gather (fields : List (String × Json)) :
    inlineSchema fields = .object (gather (inlineUnder fields) inlineNames) := by
  have hown : gather (inlineUnder fields) ["type", "items", "properties"] =
      gather (get? fields) ["type", "items", "properties"] := by
    simp only [gather, inlineUnder, List.filterMap_cons]
    rfl
  have hsplit : gather (inlineUnder fields) inlineNames =
      gather (get? fields) ["type", "items", "properties"] ++
        gather (inlineUnder fields) ["required"] := by
    rw [← hown]
    exact List.filterMap_append (l := ["type", "items", "properties"])
  rw [hsplit]
  unfold inlineSchema
  cases hrequired : get? fields "required" with
  | none => simp [gather, inlineUnder, hrequired]
  | some value => cases value <;> simp [gather, inlineUnder, hrequired, listed?]

/-! ## Lemmas: a schema that stands inline -/

/-- The fields of a parameter with a name and a location, and with a schema inline. -/
structure StandsIn (name location : String) (schema fields : List (String × Json)) : Prop where
  distinct : (names fields).Nodup
  name : get? fields "name" = some (.string name)
  location : get? fields "in" = some (.string location)
  noKey : get? fields "schema" = none
  inline : ∀ key ∈ fieldNames, inlineUnder fields key = get? schema key

theorem mem_inlineNames_iff {name : String} : name ∈ inlineNames ↔ name ∈ fieldNames := by
  simp only [inlineNames, fieldNames, List.mem_cons, List.not_mem_nil, or_false]
  tauto

variable {name location : String} {schema extra fields : List (String × Json)}

theorem Inlinable.get?_eq_none (h : Inlinable schema) {key : String} (hkey : key ∉ fieldNames) :
    get? schema key = none :=
  Fields.get?_eq_none_iff.mpr fun hmem => hkey (h.known key hmem)

/-- What is put together from the fields is the schema, in some order. -/
theorem StandsIn.get?_gather (h : StandsIn name location schema fields) (hschema : Inlinable schema)
    (key : String) : get? (gather (inlineUnder fields) inlineNames) key = get? schema key := by
  rw [Parameter.get?_gather]
  split
  · next hkey => exact h.inline key (mem_inlineNames_iff.mp hkey)
  · next hkey => rw [hschema.get?_eq_none fun hmem => hkey (mem_inlineNames_iff.mpr hmem)]

theorem eq_nil_iff_get? : fields = [] ↔ ∀ key, get? fields key = none := by
  constructor
  · rintro rfl key
    rfl
  · intro h
    cases fields with
    | nil => rfl
    | cons field rest => simpa [get?] using h field.1

theorem schemaOf_object_eq_ok_iff {read : Option Schema} :
    schemaOf (.object fields) = .ok read ↔
      fields = [] ∧ read = none ∨
      fields ≠ [] ∧ ∃ schema, Schema.decode (.object fields) = .ok schema ∧ read = some schema := by
  cases fields with
  | nil => simp [schemaOf, eq_comm]
  | cons field rest =>
    simp only [schemaOf]
    cases Schema.decode (.object (field :: rest)) <;> simp [Except.map, eq_comm]

/-- A schema that stands inline is read as it is by itself. -/
theorem StandsIn.schemaOf_iff (h : StandsIn name location schema fields)
    (hschema : Inlinable schema) (read : Option Schema) :
    schemaOf (inlineSchema fields) = .ok read ↔ schemaOf (.object schema) = .ok read := by
  have hget := h.get?_gather hschema
  have hdistinct : (names (gather (inlineUnder fields) inlineNames)).Nodup :=
    (names_gather_sublist _ _).nodup (by decide)
  have hnil : gather (inlineUnder fields) inlineNames = [] ↔ schema = [] := by
    simp only [eq_nil_iff_get?, hget]
  have hdecode := Schema.decode_of_fieldNames hdistinct hschema.distinct fun key _ => hget key
  rw [inlineSchema_eq_gather]
  simp only [schemaOf_object_eq_ok_iff, ne_eq, hnil, hdecode]

theorem StandsIn.ofJson_eq (h : StandsIn name location schema fields) :
    ofJson (.object fields) =
      match schemaOf (inlineSchema fields) with
      | .error e => .error (.schema name e)
      | .ok read => .ok ⟨name, .ofName location, read⟩ := by
  have hwritten : written fields = inlineSchema fields := by
    simp only [written, h.noKey, Option.bind_none, Option.getD_none]
  rw [ofJson_of_names h.distinct h.name h.location, hwritten]

/-- What stands beside a schema makes no difference. -/
theorem StandsIn.ofJson_congr {fields' : List (String × Json)}
    (h : StandsIn name location schema fields) (h' : StandsIn name location schema fields') :
    ofJson (.object fields) = ofJson (.object fields') := by
  have hsame : inlineSchema fields = inlineSchema fields' := by
    rw [inlineSchema_eq_gather, inlineSchema_eq_gather, gather, gather]
    congr 1
    refine List.filterMap_congr fun key hkey => ?_
    have hkey := mem_inlineNames_iff.mp hkey
    rw [h.inline key hkey, h'.inline key hkey]
  rw [h.ofJson_eq, h'.ofJson_eq, hsame]

/-- No idle field has a name of the schema. -/
theorem Idle.not_mem_names (hextra : Idle schema extra) (hschema : Inlinable schema)
    {key : String} (hkey : key ∈ names schema) : key ∉ names extra := by
  intro hmem
  obtain ⟨value, hvalue⟩ := Fields.mem_names_iff.mp hmem
  rcases hextra.each key value (Fields.mem_of_get? hvalue) with ⟨rfl, hnot, -⟩ | hnot
  · exact hnot hkey
  · exact hnot (List.mem_append_right _ (hschema.known key hkey))

/-- No field of the schema, and no idle one, has a name of the parameter's own. -/
theorem Idle.own_not_mem_names (hextra : Idle schema extra) (hschema : Inlinable schema)
    {key : String} (hkey : key ∈ ["name", "in", "schema"]) : key ∉ names (schema ++ extra) := by
  -- the names of a schema are no names of a parameter's own
  have hforeign : ∀ own ∈ ["name", "in", "schema"], own ∉ fieldNames := by decide
  intro hmem
  obtain ⟨value, hvalue⟩ := Fields.mem_names_iff.mp hmem
  rcases List.mem_append.mp (Fields.mem_of_get? hvalue) with hvalue | hvalue
  · exact hforeign key hkey (hschema.known key (List.mem_map.mpr ⟨_, hvalue, rfl⟩))
  · rcases hextra.each key value hvalue with ⟨rfl, -⟩ | hnot
    · exact absurd hkey (by decide)
    · exact hnot (List.mem_append_left _ hkey)

theorem Idle.nodup_names (hextra : Idle schema extra) (hschema : Inlinable schema) :
    (names (schema ++ extra)).Nodup := by
  have hsplit : names (schema ++ extra) = names schema ++ names extra := List.map_append
  rw [hsplit, List.nodup_append]
  refine ⟨hschema.distinct, hextra.distinct, fun key hkey other hother heq => ?_⟩
  subst heq
  exact hextra.not_mem_names hschema hkey hother

/-- Under a name of a schema the schema decides, and beside it there is at most a flag. -/
theorem Idle.inlineUnder_eq (hextra : Idle schema extra) (hschema : Inlinable schema)
    {key : String} (hkey : key ∈ fieldNames) :
    inlineUnder (schema ++ extra) key = get? schema key := by
  unfold inlineUnder
  rw [Fields.get?_append]
  cases hget : get? schema key with
  | some value =>
    rw [Option.some_or]
    split
    · next heq =>
      subst heq
      obtain ⟨values, rfl⟩ := hschema.required value hget
      rfl
    · rfl
  | none =>
    rw [Option.none_or]
    cases hfound : get? extra key with
    | none => simp
    | some value =>
      rcases hextra.each key value (Fields.mem_of_get? hfound) with ⟨rfl, -, b, rfl⟩ | hnot
      · rfl
      · exact absurd (List.mem_append_right _ hkey) hnot

/-- Fields in any order, and with idle ones among them, have the schema inline. -/
theorem standsIn_of_perm (hschema : Inlinable schema) (hextra : Idle schema extra)
    (hperm : fields.Perm
      (("name", .string name) :: ("in", .string location) :: (schema ++ extra))) :
    StandsIn name location schema fields := by
  have hname : "name" ∉ names (schema ++ extra) := hextra.own_not_mem_names hschema (by decide)
  have hin : "in" ∉ names (schema ++ extra) := hextra.own_not_mem_names hschema (by decide)
  have hnoKey : "schema" ∉ names (schema ++ extra) :=
    hextra.own_not_mem_names hschema (by decide)
  have hnodup : ("name" :: "in" :: names (schema ++ extra)).Nodup := by
    refine List.nodup_cons.mpr ⟨fun hmem => ?_,
      List.nodup_cons.mpr ⟨hin, hextra.nodup_names hschema⟩⟩
    rcases List.mem_cons.mp hmem with heq | hmem
    · exact absurd heq (by decide)
    · exact hname hmem
  have hdistinct : (names fields).Nodup := (hperm.map Prod.fst).nodup_iff.mpr hnodup
  have hget := Fields.get?_of_perm hdistinct hperm
  refine ⟨hdistinct, hget "name", hget "in", ?_, fun key hkey => ?_⟩
  · rw [hget]
    simpa [get?] using Fields.get?_eq_none_iff.mpr hnoKey
  · have hown : ∀ known ∈ fieldNames, "name" ≠ known ∧ "in" ≠ known := by decide
    have hbehind : get? fields key = get? (schema ++ extra) key := by
      rw [hget, get?, if_neg (hown key hkey).1, get?, if_neg (hown key hkey).2]
    rw [← hextra.inlineUnder_eq hschema hkey]
    simp only [inlineUnder, hbehind]

theorem idle_nil (schema : List (String × Json)) : Idle schema [] :=
  ⟨List.nodup_nil, fun _ _ h => nomatch h⟩

/-! ## The theorem -/

/-- **Both ways are read alike.** A parameter has a name and a location, and a schema that can stand
inline, under `schema` or inline, its fields being in any order. Without anything written for the
schema, both ways give the parameter without a schema. Else both give the parameter with the same
schema, or both fail for the schema of the parameter of this name. Idle fields beside the schema
make no difference. -/
theorem ofJson_inline (name location : String)
    {schema extra keyed inline extended : List (String × Json)} (hschema : Inlinable schema)
    (hextra : Idle schema extra)
    (hkeyed : keyed.Perm
      [("name", .string name), ("in", .string location), ("schema", .object schema)])
    (hinline : inline.Perm (("name", .string name) :: ("in", .string location) :: schema))
    (hextended : extended.Perm
      (("name", .string name) :: ("in", .string location) :: (schema ++ extra))) :
    (schema = [] → ofJson (.object keyed) = .ok ⟨name, .ofName location, none⟩ ∧
      ofJson (.object inline) = .ok ⟨name, .ofName location, none⟩) ∧
    (schema ≠ [] →
      (∃ read, ofJson (.object keyed) = .ok ⟨name, .ofName location, some read⟩ ∧
        ofJson (.object inline) = .ok ⟨name, .ofName location, some read⟩) ∨
      (∃ e, ofJson (.object keyed) = .error (.schema name e)) ∧
        ∃ e, ofJson (.object inline) = .error (.schema name e)) ∧
    ofJson (.object extended) = ofJson (.object inline) := by
  have hstands : StandsIn name location schema inline :=
    standsIn_of_perm hschema (idle_nil schema) (by rwa [List.append_nil])
  have hdistinct : (names keyed).Nodup :=
    (hkeyed.map Prod.fst).nodup_iff.mpr (show ["name", "in", "schema"].Nodup by decide)
  have hget := Fields.get?_of_perm hdistinct hkeyed
  have hwritten : written keyed = .object schema := by
    unfold written
    rw [hget]
    rfl
  have hkeyed' := ofJson_of_names hdistinct (hget "name") (hget "in")
  rw [hwritten] at hkeyed'
  rw [hkeyed', hstands.ofJson_eq]
  refine ⟨?_, fun hne => ?_, ?_⟩
  · rintro rfl
    have hnone : schemaOf (.object []) = .ok none := rfl
    simp only [(hstands.schemaOf_iff hschema none).mpr hnone, hnone, and_self]
  · cases hread : schemaOf (.object schema) with
    | ok read =>
      rcases schemaOf_object_eq_ok_iff.mp hread with ⟨hnil, -⟩ | ⟨-, found, -, rfl⟩
      · exact absurd hnil hne
      · refine .inl ⟨found, ?_⟩
        simp only [(hstands.schemaOf_iff hschema _).mpr hread, and_self]
    | error e =>
      cases hinline : schemaOf (inlineSchema inline) with
      | ok read =>
        rw [(hstands.schemaOf_iff hschema read).mp hinline] at hread
        cases hread
      | error e' => exact .inr ⟨⟨e, rfl⟩, e', rfl⟩
  · rw [← hstands.ofJson_eq]
    exact (standsIn_of_perm hschema hextra hextended).ofJson_congr hstands

/-- The schema of a list of numbers, as it is written. -/
def idsSchema : List (String × Json) :=
  [("items", .object [("type", .string "integer")]), ("type", .string "array")]

/-- A flag and a note, which say nothing about it. -/
def idsNotes : List (String × Json) :=
  [("required", .bool true), ("note", .string "at most ten")]

/-- A parameter with this schema inline, behind the notes and before the name. -/
def idsInline : List (String × Json) :=
  idsNotes ++ idsSchema ++ [("name", .string "ids"), ("in", .string "query")]

/-- The notes make no difference, and the schema is that of a list. -/
theorem ofJson_idsInline :
    Inlinable idsSchema ∧ Idle idsSchema idsNotes ∧
    ofJson (.object idsInline) = .ok ⟨"ids", .query, some (.array .integer)⟩ := by
  have hschema : Inlinable idsSchema := ⟨by decide, by decide, fun _ h => nomatch h⟩
  have hnotes : Idle idsSchema idsNotes := by
    refine ⟨by decide, fun name value h => ?_⟩
    rcases List.mem_cons.mp h with heq | h
    · cases heq
      exact .inl ⟨rfl, by decide, true, rfl⟩
    · cases List.mem_singleton.mp h
      exact .inr (by decide)
  have hperm : idsInline.Perm
      (("name", .string "ids") :: ("in", .string "query") :: (idsSchema ++ idsNotes)) :=
    List.perm_append_comm.trans (List.perm_append_comm.append_left [_, _])
  obtain ⟨-, hread, hextended⟩ :=
    ofJson_inline "ids" "query" hschema hnotes (.refl _) (.refl _) hperm
  have hkeyed : ofJson (.object [("name", .string "ids"), ("in", .string "query"),
      ("schema", .object idsSchema)]) = .ok ⟨"ids", .query, some (.array .integer)⟩ := by cbv
  refine ⟨hschema, hnotes, hextended.trans ?_⟩
  rcases hread (by decide) with ⟨read, hkey, hinline⟩ | ⟨⟨e, herror⟩, -⟩
  · rw [hinline, ← hkey, hkeyed]
  · rw [hkeyed] at herror
    cases herror

end Gatehouse.Rules.Parameter
