import Gatehouse.Proofs.Rules.Loading
/-!
What is blamed when a rules document is not loaded.

Loading stops at the first operation that describes no route, and tells what is wrong with it:

    the operation, its `parameters`, or the form of a parameter
                                   →  the path and the method of the operation, and why
    the schema of a parameter      →  the name of the parameter, and why

In both cases the parameter is the first bad one of the operation. What stands behind it, in the
list of parameters, in the item or in the document, has no influence (ofDocument_blames).
-/

namespace Gatehouse.Rules

/-! ## What is wrong with a parameter -/

namespace Parameter

/-- The fields have the form of a parameter: `name` is a string where it is given, and `in` is
given and is a location. The schema may be anything. -/
structure Formed (fields : List (String × Json)) : Prop where
  name : ∀ value, ("name", value) ∈ fields → ∃ text, value = .string text
  location : ∀ value, ("in", value) ∈ fields → ∃ location, locationOf value = .ok location
  located : ∃ value, ("in", value) ∈ fields

/-- The value is an object with the form of a parameter. -/
def IsFormed (value : Json) : Prop :=
  ∃ fields, value = .object fields ∧ Formed fields

/-- The name that fields give a parameter, which is empty if they give none. -/
inductive Named (fields : List (String × Json)) : String → Prop
  | unnamed : (∀ value, ("name", value) ∉ fields) → Named fields ""
  | named {name : String} :
      IsLast (fun field => field.1 = "name") fields ("name", .string name) → Named fields name

/-- The value that fields give for the schema of a parameter: what stands under `schema`, or else
what is written inline. -/
inductive Writes (fields : List (String × Json)) : Json → Prop
  | schema {value : Json} : IsLast (fun field => field.1 = "schema") fields ("schema", value) →
      value ≠ .null → Writes fields value
  | inline : (∀ value, IsLast (fun field => field.1 = "schema") fields ("schema", value) →
      value = .null) → Writes fields (inlineSchema fields)

/-- The fields have the form of a parameter with a name, and write something that is no schema. -/
structure Misdescribes (fields : List (String × Json)) (name : String) (e : Schema.Error) :
    Prop where
  formed : Formed fields
  named : Named fields name
  written : ∃ value, Writes fields value ∧ value ≠ .object [] ∧ Schema.decode value = .error e

end Parameter

/-! ## What is wrong with an operation -/

/-- The value is the first of the parameters of an operation that is none. -/
def FirstBad (fields : List (String × Json)) (value : Json) : Prop :=
  ∃ before after, Fields.get? fields "parameters" = some (.array (before ++ value :: after)) ∧
    (∀ other ∈ before, ∃ parameter, Parameter.ofJson other = .ok parameter) ∧
    ∀ parameter, Parameter.ofJson value ≠ .ok parameter

/-- The error tells why an operation for a path and method describes no route. -/
inductive Blames (path method : String) : Json → Error → Prop
  | notAnObject {operation : Json} : (∀ fields, operation ≠ .object fields) →
      Blames path method operation (.operation path method (.notAnObject operation.typeName))
  | notAList {fields : List (String × Json)} {value : Json} :
      Fields.get? fields "parameters" = some value → value ≠ .null →
      (∀ values, value ≠ .array values) →
      Blames path method (.object fields) (.operation path method .parametersNotList)
  | parameter {fields : List (String × Json)} {value : Json} {m : Json.Mismatch} :
      FirstBad fields value → ¬Parameter.IsFormed value →
      Parameter.ofJson value = .error (.malformed m) →
      Blames path method (.object fields) (.operation path method (.parameter m))
  | schema {fields parameter : List (String × Json)} {name : String} {e : Schema.Error} :
      FirstBad fields (.object parameter) → Parameter.Misdescribes parameter name e →
      Blames path method (.object fields) (.schema name e)

/-- Two operations are the same up to the first bad parameter. -/
inductive SameToFault : Json → Json → Prop
  | refl (operation : Json) : SameToFault operation operation
  | parameters {fields fields' : List (String × Json)} {before after after' : List Json}
      {value : Json} :
      Fields.get? fields "parameters" = some (.array (before ++ value :: after)) →
      Fields.get? fields' "parameters" = some (.array (before ++ value :: after')) →
      (∀ parameter, Parameter.ofJson value ≠ .ok parameter) →
      SameToFault (.object fields) (.object fields')

/-- An operation in its place in a document. -/
structure Site where
  pathsBefore : List (String × List (String × Json))
  path : String
  before : List (String × Json)
  key : String
  operation : Json
  after : List (String × Json)
  pathsAfter : List (String × List (String × Json))

/-- The document that the operation stands in. -/
def Site.document (site : Site) : Document :=
  ⟨site.pathsBefore ++
    (site.path, site.before ++ (site.key, site.operation) :: site.after) :: site.pathsAfter⟩

/-! ## Lemmas: the form of a parameter -/

namespace Parameter

/-- A value that is given, unless it is `null`. -/
def given? : Json → Option Json
  | .null => none
  | value => some value

theorem given?_eq_some_iff {value other : Json} :
    given? value = some other ↔ other = value ∧ other ≠ .null := by
  cases value <;> simp [given?, eq_comm] <;> rintro rfl <;> simp

/-- What one more field says, by its key. -/
theorem Parts.add_eq_ok_iff {parts next : Parts} {key : String} {value : Json} :
    parts.add (key, value) = .ok next ↔
      (key = "name" ∧ ∃ text, value = .string text ∧ next = { parts with name := text }) ∨
      (key = "in" ∧ ∃ location, locationOf value = .ok location ∧
        next = { parts with location := some location }) ∨
      (key = "schema" ∧ next = { parts with schema := given? value }) ∨
      (key ≠ "name" ∧ key ≠ "in" ∧ key ≠ "schema" ∧ next = parts) := by
  unfold Parts.add
  split
  · next heq => simp_all [eq_comm]
  · next heq => simp_all [eq_comm]
  · next heq =>
    obtain ⟨rfl, rfl⟩ := Prod.mk.inj heq
    cases locationOf value <;> simp [eq_comm, Except.map]
  · next heq => simp_all [eq_comm, given?]
  · next heq => simp_all [eq_comm, given?]
  · simp_all [eq_comm]

/-- What has been taken up of fields. -/
structure Parts.Of (fields : List (String × Json)) (parts : Parts) : Prop where
  names : ∀ value, ("name", value) ∈ fields → ∃ text, value = .string text
  locations : ∀ value, ("in", value) ∈ fields → ∃ location, locationOf value = .ok location
  name : Named fields parts.name
  location : (∃ location, parts.location = some location) ↔ ∃ value, ("in", value) ∈ fields
  schema : ∀ value, parts.schema = some value ↔
    IsLast (fun field => field.1 = "schema") fields ("schema", value) ∧ value ≠ .null

theorem Parts.of_empty : Parts.Of [] Parts.empty where
  names _ h := nomatch h
  locations _ h := nomatch h
  name := .unnamed fun _ h => nomatch h
  location := iff_of_false (fun ⟨_, h⟩ => nomatch h) (fun ⟨_, h⟩ => nomatch h)
  schema _ := iff_of_false (fun h => nomatch h) fun h => not_isLast_nil h.1

theorem Named.concat {fields : List (String × Json)} {name key : String} (h : Named fields name)
    (hkey : key ≠ "name") (value : Json) : Named (fields ++ [(key, value)]) name := by
  cases h with
  | unnamed hnone =>
    refine .unnamed fun other hmem => ?_
    rcases List.mem_append.mp hmem with hmem | hmem
    · exact hnone other hmem
    · exact hkey (Prod.mk.inj (List.mem_singleton.mp hmem)).1.symm
  | named hlast => exact .named (isLast_concat_iff.mpr (by rwa [if_neg hkey]))

/-- Each field that is taken up leaves the parts those of all fields so far. -/
theorem Parts.Of.concat {fields : List (String × Json)} {parts next : Parts} {key : String}
    {value : Json} (h : Parts.Of fields parts) (hadd : parts.add (key, value) = .ok next) :
    Parts.Of (fields ++ [(key, value)]) next := by
  obtain ⟨hnames, hlocations, hname, hlocation, hschema⟩ := h
  rcases Parts.add_eq_ok_iff.mp hadd with ⟨rfl, text, rfl, rfl⟩ | ⟨rfl, location, hvalue, rfl⟩ |
    ⟨rfl, rfl⟩ | ⟨hkname, hkin, hkschema, rfl⟩
  · refine ⟨?_, ?_, .named ?_, ?_, ?_⟩
    · simpa [or_imp, forall_and] using hnames
    · simpa using hlocations
    · simp [isLast_concat_iff]
    · simpa using hlocation
    · simpa [isLast_concat_iff] using hschema
  · refine ⟨?_, ?_, hname.concat (by decide) _, ?_, ?_⟩
    · simpa using hnames
    · simpa [or_imp, forall_and, hvalue] using hlocations
    · simp
    · simpa [isLast_concat_iff] using hschema
  · refine ⟨?_, ?_, hname.concat (by decide) _, ?_, ?_⟩
    · simpa using hnames
    · simpa using hlocations
    · simpa using hlocation
    · intro other
      simp [isLast_concat_iff, given?_eq_some_iff]
  · refine ⟨?_, ?_, hname.concat hkname _, ?_, ?_⟩
    · simpa [Ne.symm hkname] using hnames
    · simpa [Ne.symm hkin] using hlocations
    · simpa [Ne.symm hkin] using hlocation
    · simpa [isLast_concat_iff, hkschema] using hschema

/-- The fields that are taken up leave their parts. -/
theorem Parts.of_foldlM {fields : List (String × Json)} {parts : Parts}
    (h : fields.foldlM Parts.add Parts.empty = .ok parts) : Parts.Of fields parts := by
  induction fields using List.reverseRecOn generalizing parts with
  | nil =>
    obtain rfl := Except.ok.inj h
    exact Parts.of_empty
  | append_singleton fields field ih =>
    rw [List.foldlM_append, bind_eq_ok_iff] at h
    obtain ⟨before, hbefore, hadd⟩ := h
    have hfield : (before.add field >>= pure) = .ok parts := hadd
    rw [bind_pure] at hfield
    exact (ih hbefore).concat hfield

/-- Fields can be taken up iff those with a form of their own have it. -/
theorem Parts.exists_foldlM_iff {fields : List (String × Json)} :
    (∃ parts, fields.foldlM Parts.add Parts.empty = .ok parts) ↔
      (∀ value, ("name", value) ∈ fields → ∃ text, value = .string text) ∧
      ∀ value, ("in", value) ∈ fields → ∃ location, locationOf value = .ok location := by
  constructor
  · rintro ⟨parts, h⟩
    exact ⟨(Parts.of_foldlM h).names, (Parts.of_foldlM h).locations⟩
  · rintro ⟨hnames, hlocations⟩
    -- the first field that is not taken up would have the wrong form
    cases h : fields.foldlM Parts.add Parts.empty with
    | ok parts => exact ⟨parts, rfl⟩
    | error m =>
      obtain ⟨before, ⟨key, value⟩, after, parts, rfl, -, hadd⟩ := foldlM_eq_error_iff.mp h
      have hnext : ∃ next, parts.add (key, value) = .ok next := by
        by_cases hname : key = "name"
        · obtain ⟨text, rfl⟩ := hnames value (by simp [hname])
          exact ⟨_, Parts.add_eq_ok_iff.mpr (.inl ⟨hname, text, rfl, rfl⟩)⟩
        by_cases hin : key = "in"
        · obtain ⟨location, hlocation⟩ := hlocations value (by simp [hin])
          exact ⟨_, Parts.add_eq_ok_iff.mpr (.inr (.inl ⟨hin, location, hlocation, rfl⟩))⟩
        by_cases hschema : key = "schema"
        · exact ⟨_, Parts.add_eq_ok_iff.mpr (.inr (.inr (.inl ⟨hschema, rfl⟩)))⟩
        · exact ⟨_, Parts.add_eq_ok_iff.mpr (.inr (.inr (.inr ⟨hname, hin, hschema, rfl⟩)))⟩
      obtain ⟨next, hnext⟩ := hnext
      rw [hadd] at hnext
      cases hnext

theorem Parts.Of.writes {fields : List (String × Json)} {parts : Parts}
    (h : Parts.Of fields parts) :
    Writes fields (parts.schema.getD (inlineSchema fields)) := by
  cases hschema : parts.schema with
  | none =>
    refine .inline fun value hlast => ?_
    by_contra hnull
    rw [(h.schema value).mpr ⟨hlast, hnull⟩] at hschema
    cases hschema
  | some value =>
    obtain ⟨hlast, hnull⟩ := (h.schema value).mp hschema
    exact .schema hlast hnull

theorem schemaOf_eq_error {value : Json} {e : Schema.Error} (h : schemaOf value = .error e) :
    value ≠ .object [] ∧ Schema.decode value = .error e := by
  unfold schemaOf at h
  split at h
  · cases h
  · cases h
  · next hobject =>
    refine ⟨hobject, ?_⟩
    cases hdecode : Schema.decode value with
    | error e' =>
      rw [hdecode] at h
      obtain rfl := Except.error.inj h
      rfl
    | ok schema =>
      rw [hdecode] at h
      cases h

/-- A value with the form of a parameter is read, or its schema is none. -/
theorem ofJson_of_formed {fields : List (String × Json)} (h : Formed fields) :
    (∃ parameter, ofJson (.object fields) = .ok parameter) ∨
      ∃ name e, ofJson (.object fields) = .error (.schema name e) ∧ Misdescribes fields name e := by
  obtain ⟨parts, hparts⟩ := Parts.exists_foldlM_iff.mpr ⟨h.name, h.location⟩
  have hof := Parts.of_foldlM hparts
  obtain ⟨location, hlocation⟩ := hof.location.mpr h.located
  unfold ofJson
  simp only [hparts, hlocation]
  cases hschema : schemaOf (parts.schema.getD (inlineSchema fields)) with
  | ok schema => exact .inl ⟨_, rfl⟩
  | error e => exact .inr ⟨_, e, rfl, h, hof.name, _, hof.writes, schemaOf_eq_error hschema⟩

/-- A value without the form of a parameter is malformed. -/
theorem ofJson_of_not_isFormed {value : Json} (h : ¬IsFormed value) :
    ∃ m, ofJson value = .error (.malformed m) := by
  unfold ofJson
  split
  · next fields =>
    split
    · exact ⟨_, rfl⟩
    · next parts hparts =>
      have hof := Parts.of_foldlM hparts
      split
      · exact ⟨_, rfl⟩
      · next location hlocation =>
        refine absurd ⟨fields, rfl, hof.names, hof.locations, ?_⟩ h
        exact hof.location.mp ⟨location, hlocation⟩
  · exact ⟨_, rfl⟩

end Parameter

/-! ## Lemmas: one operation -/

/-- What is wrong with the list of parameters is told with the path and the method. -/
theorem blames_of_parametersOf {path method : String} {operation : Json} {reason : Reason}
    (h : parametersOf operation = .error reason) :
    Blames path method operation (.operation path method reason) := by
  unfold parametersOf at h
  split at h
  · next fields =>
    split at h
    · cases h
    · cases h
    · cases h
    · next value hnull hlist hget =>
      obtain rfl := Except.error.inj h
      exact .notAList hget hnull hlist
  · next hobject =>
    obtain rfl := Except.error.inj h
    exact .notAnObject hobject

/-- The first bad parameter is blamed for its form or for its schema. -/
theorem blames_of_firstBad {path method : String} {fields : List (String × Json)} {value : Json}
    {e : Parameter.Error} (hfirst : FirstBad fields value) (h : Parameter.ofJson value = .error e) :
    Blames path method (.object fields) (.ofParameter path method e) := by
  by_cases hformed : Parameter.IsFormed value
  · obtain ⟨parameter, rfl, hformed⟩ := hformed
    rcases Parameter.ofJson_of_formed hformed with ⟨_, hok⟩ | ⟨name, fault, herror, hmis⟩
    · rw [h] at hok
      cases hok
    · obtain rfl := Except.error.inj (h.symm.trans herror)
      exact .schema hfirst hmis
  · obtain ⟨m, hm⟩ := Parameter.ofJson_of_not_isFormed hformed
    obtain rfl := Except.error.inj (h.symm.trans hm)
    exact .parameter hfirst hformed hm

/-- An operation that is not read is blamed for the first thing that is wrong with it. -/
theorem blames_of_routeOf {path method : String} {operation : Json} {e : Error}
    (h : routeOf path method operation = .error e) : Blames path method operation e := by
  unfold routeOf at h
  cases hparameters : parametersOf operation with
  | error reason =>
    rw [hparameters] at h
    obtain rfl := Except.error.inj h
    exact blames_of_parametersOf hparameters
  | ok values =>
    rw [hparameters] at h
    cases hread : values.mapM Parameter.ofJson with
    | ok parameters => simp [hread] at h
    | error fault =>
      simp only [hread] at h
      obtain rfl := Except.error.inj h
      obtain ⟨before, value, after, rfl, hbefore, hvalue⟩ := mapM_eq_error_iff.mp hread
      obtain ⟨fields, rfl, hget⟩ := parametersOf_eq_ok_iff.mp hparameters
      refine blames_of_firstBad ⟨before, after, ?_, hbefore, fun parameter hok => ?_⟩ hvalue
      · simpa using hget
      · rw [hvalue] at hok
        cases hok

theorem SameToFault.routeOf_eq {operation operation' : Json} (h : SameToFault operation operation')
    (path method : String) : routeOf path method operation = routeOf path method operation' := by
  cases h with
  | refl => rfl
  | @parameters fields fields' before after after' value hget hget' hbad =>
    cases hvalue : Parameter.ofJson value with
    | ok parameter => exact absurd hvalue (hbad parameter)
    | error e =>
      have hparameters := parametersOf_eq_ok_iff.mpr ⟨fields, rfl, .inr (.inr hget)⟩
      have hparameters' := parametersOf_eq_ok_iff.mpr ⟨fields', rfl, .inr (.inr hget')⟩
      unfold routeOf
      simp only [hparameters, hparameters', mapM_eq_of_error hvalue before after after']

/-! ## Lemmas: the place of the first failure -/

/-- A field is not taken up iff it is an operation that is not read. -/
theorem addOperation_eq_error_iff {path : String} {table : Table} {field : String × Json}
    {e : Error} :
    Table.addOperation path table field = .error e ↔
      NamesMethod field.1 ∧ routeOf path (Ascii.lower field.1) field.2 = .error e := by
  unfold Table.addOperation NamesMethod
  simp only
  split
  · next hmethod => cases routeOf path (Ascii.lower field.1) field.2 <;> simp [hmethod]
  · next hmethod => simp [hmethod]

/-- Where fields are all taken up, those that are operations describe routes. -/
theorem exists_describes_of_addOperation {path : String} {item : List (String × Json)}
    {start table : Table} (h : item.foldlM (Table.addOperation path) start = .ok table)
    {field : String × Json} (hfield : field ∈ item) (hmethod : NamesMethod field.1) :
    ∃ route, Describes field.2 route := by
  have hload : (operationsOf (path, item)).foldlM Operation.load start = .ok table := by
    rw [← addItem_eq_foldlM]
    exact h
  exact exists_foldlM_load_iff.mp ⟨table, hload⟩ ⟨path, field.1, field.2⟩
    (mem_operationsOf_iff.mpr ⟨hmethod, rfl, hfield⟩)

/-- A document is not loaded iff its loading gets to an operation that is not read. -/
theorem ofDocument_eq_error_iff {document : Document} {e : Error} :
    Table.ofDocument document = .error e ↔ ∃ (site : Site) (table table' : Table),
      site.document = document ∧
      site.pathsBefore.foldlM Table.addItem Table.empty = .ok table ∧
      site.before.foldlM (Table.addOperation site.path) table = .ok table' ∧
      NamesMethod site.key ∧
      routeOf site.path (Ascii.lower site.key) site.operation = .error e := by
  unfold Table.ofDocument
  rw [foldlM_eq_error_iff]
  constructor
  · rintro ⟨pathsBefore, ⟨path, item⟩, pathsAfter, table, hpaths, hbefore, hitem⟩
    obtain ⟨before, ⟨key, operation⟩, after, table', rfl, hfields, hadd⟩ :=
      foldlM_eq_error_iff.mp hitem
    obtain ⟨hmethod, hroute⟩ := addOperation_eq_error_iff.mp hadd
    refine ⟨⟨pathsBefore, path, before, key, operation, after, pathsAfter⟩, table, table', ?_,
      hbefore, hfields, hmethod, hroute⟩
    unfold Site.document
    rw [← hpaths]
  · rintro ⟨site, table, table', rfl, hbefore, hfields, hmethod, hroute⟩
    refine ⟨site.pathsBefore, _, site.pathsAfter, table, rfl, hbefore, ?_⟩
    exact foldlM_eq_error_iff.mpr ⟨site.before, _, site.after, table', rfl, hfields,
      addOperation_eq_error_iff.mpr ⟨hmethod, hroute⟩⟩

/-- **What is blamed is to blame.** If a document is not loaded, then because of the first
operation of an item, in its order, that describes no route: the error tells the path and the
method of this operation, or the name of its first bad parameter if only the schema of that is bad.
Another operation that is the same up to there, and anything else behind it, leave the same
error. -/
theorem ofDocument_blames (document : Document) (e : Error)
    (h : Table.ofDocument document = .error e) :
    ∃ site : Site, site.document = document ∧ NamesMethod site.key ∧
      (∀ field ∈ site.before, NamesMethod field.1 → ∃ route, Describes field.2 route) ∧
      (¬∃ route, Describes site.operation route) ∧
      Blames site.path (Ascii.lower site.key) site.operation e ∧
      ∀ operation after pathsAfter, SameToFault site.operation operation →
        Table.ofDocument { site with operation, after, pathsAfter }.document = .error e := by
  obtain ⟨site, table, table', hdocument, hbefore, hfields, hmethod, hroute⟩ :=
    ofDocument_eq_error_iff.mp h
  refine ⟨site, hdocument, hmethod, ?_, ?_, blames_of_routeOf hroute, ?_⟩
  · exact fun field hfield => exists_describes_of_addOperation hfields hfield
  · rintro ⟨route, hdescribes⟩
    rw [routeOf_eq_ok_iff.mpr hdescribes] at hroute
    cases hroute
  · intro operation after pathsAfter hsame
    rw [hsame.routeOf_eq] at hroute
    exact ofDocument_eq_error_iff.mpr
      ⟨{ site with operation, after, pathsAfter }, table, table', rfl, hbefore, hfields, hmethod,
        hroute⟩

/-- A document in which the second parameter of the second operation has no location, and so has
the first parameter of the third. -/
def unplaced : Document :=
  ⟨[("/p", [("get", .object []), ("summary", .null),
    ("Put", .object [("parameters", .array [
      .object [("name", .string "page"), ("in", .string "path")],
      .object [("name", .string "size")]])]),
    ("post", .object [("parameters", .array [.object []])])])]⟩

/-- The second operation is blamed, under its path and its method in lower case. -/
theorem ofDocument_unplaced :
    Table.ofDocument unplaced =
      .error (.operation "/p" "put" (.parameter (.missingField "in"))) ∧
    ∃ site : Site, site.document = unplaced ∧
      Blames site.path (Ascii.lower site.key) site.operation
        (.operation "/p" "put" (.parameter (.missingField "in"))) := by
  have h : Table.ofDocument unplaced =
      .error (.operation "/p" "put" (.parameter (.missingField "in"))) := rfl
  obtain ⟨site, hdocument, -, -, -, hblames, -⟩ := ofDocument_blames unplaced _ h
  exact ⟨h, site, hdocument, hblames⟩

end Gatehouse.Rules
