import Gatehouse.Proofs.Rules.Loading
import Gatehouse.Proofs.Schema.Writing
/-!
Tables as they are written.

A table is written as a document: for each path an item with an operation under each method, which
has the list of the parameters. A parameter says where it is and has its schema, or `{}` where it
has none; a location that is not enforced is written as a header.

    table.Regular  →  ofDocument table.toDocument = .ok table
    ofDocument document = .ok table  →  table.Regular              (ofDocument_toDocument)

Nothing of a regular table is lost on the way, the names of bodies and the parameters that are not
enforced included; and since every table that is loaded is regular, a document can be replaced by
what its table is written as.
-/

namespace Gatehouse.Rules

/-! ## Writing -/

/-- The name that is written for a location. -/
def Location.name : Location → String
  | .query => "query"
  | .body => "body"
  | .other => "header"

/-- Writes the schema of a parameter. -/
def schemaToJson : Option Schema → Json
  | none => .object []
  | some schema => schema.toJson

/-- Writes a parameter. -/
def Parameter.toJson (p : Parameter) : Json :=
  .object [("name", .string p.name), ("in", .string p.location.name),
    ("schema", schemaToJson p.schema)]

/-- Writes a route as an operation. -/
def Route.toJson (route : Route) : Json :=
  .object [("parameters", .array (route.parameters.map Parameter.toJson))]

/-- Writes the routes for a path as its item. -/
def Table.itemAt (table : Table) (path : String) : List (String × Json) :=
  (table.entries.filter (·.path = path)).map fun e => (e.method, e.route.toJson)

/-- Writes a table. -/
def Table.toDocument (table : Table) : Document :=
  ⟨(table.entries.map Entry.path).dedup.map fun path => (path, table.itemAt path)⟩

/-! ## Regular tables -/

/-- The schema, if there is one, is regular. -/
def Parameter.Regular (p : Parameter) : Prop :=
  ∀ schema, p.schema = some schema → schema.Regular

/-- All parameters are regular. -/
def Route.Regular (route : Route) : Prop :=
  ∀ p ∈ route.parameters, p.Regular

/-- Rules are for the known methods alone, and all routes are regular. -/
def Table.Regular (table : Table) : Prop :=
  ∀ e ∈ table.entries, e.method ∈ methods ∧ e.route.Regular

theorem regular_empty : Table.empty.Regular :=
  fun _ he => absurd he List.not_mem_nil

/-- Tables stay regular as long as rules are for the known methods. -/
theorem Table.Regular.insert {table : Table} (h : table.Regular) (path : String) {method : String}
    (hmethod : NamesMethod method) {route : Route} (hroute : route.Regular) :
    (table.insert path method route).Regular := by
  intro e he
  rcases Entry.mem_put he with rfl | he
  · exact ⟨hmethod, hroute⟩
  · exact h e he

/-! ## Lemmas: parameters -/

theorem Location.ofName_name (location : Location) : Location.ofName location.name = location := by
  cases location <;> decide

/-- A schema is written as an object, which is empty just if there is no schema. -/
theorem schemaOf_schemaToJson {schema : Option Schema}
    (h : ∀ s, schema = some s → s.Regular) :
    Parameter.schemaOf (schemaToJson schema) = .ok schema := by
  cases schema with
  | none => rfl
  | some schema =>
    obtain ⟨parts, hparts⟩ := schema.exists_toJson
    have hread := Schema.decode_toJson schema (h schema rfl)
    rw [schemaToJson, hparts] at *
    simp only [Parameter.schemaOf, hread, Except.map]

theorem exists_schemaToJson (schema : Option Schema) :
    ∃ fields, schemaToJson schema = .object fields := by
  cases schema with
  | none => exact ⟨[], rfl⟩
  | some schema =>
    obtain ⟨parts, hparts⟩ := schema.exists_toJson
    exact ⟨_, hparts⟩

/-- A regular parameter is read back. -/
theorem Parameter.ofJson_toJson {p : Parameter} (h : p.Regular) :
    Parameter.ofJson p.toJson = .ok p := by
  obtain ⟨fields, hfields⟩ := exists_schemaToJson p.schema
  have hadd : [("name", Json.string p.name), ("in", .string p.location.name),
      ("schema", schemaToJson p.schema)].foldlM Parts.add Parts.empty =
      .ok ⟨p.name, some p.location, some (schemaToJson p.schema)⟩ := by
    rw [hfields]
    simp [Parts.add, locationOf, Location.ofName_name, Except.map, Parts.empty, bind, Except.bind,
      pure, Except.pure]
  rw [toJson, ofJson]
  simp only [hadd, Option.getD_some, schemaOf_schemaToJson h]

/-- What is read as a parameter is regular. -/
theorem Parameter.regular_ofJson {value : Json} {p : Parameter}
    (h : Parameter.ofJson value = .ok p) : p.Regular := by
  have hschema : ∀ written read, schemaOf written = .ok (some read) → read.Regular := by
    intro written read hread
    unfold schemaOf at hread
    split at hread
    · cases hread
    · cases hread
    · cases hdecode : Schema.decode written with
      | error e =>
        rw [hdecode] at hread
        cases hread
      | ok schema =>
        rw [hdecode] at hread
        obtain rfl := Option.some.inj (Except.ok.inj hread)
        exact Schema.regular_decode hdecode
  intro schema hp
  unfold ofJson at h
  split at h
  · split at h
    · cases h
    · split at h
      · cases h
      · split at h
        · cases h
        · next read hread =>
          obtain rfl := Except.ok.inj h
          obtain rfl : read = some schema := hp
          exact hschema _ _ hread
  · cases h

/-! ## Lemmas: operations -/

/-- A regular route is described by the operation that it is written as. -/
theorem describes_toJson {route : Route} (h : route.Regular) : Describes route.toJson route := by
  have hget : Fields.get? [("parameters", Json.array (route.parameters.map Parameter.toJson))]
      "parameters" = some (.array (route.parameters.map Parameter.toJson)) := if_pos rfl
  refine .list hget ?_
  rw [List.forall₂_map_left_iff, List.forall₂_same]
  exact fun p hp => Parameter.ofJson_toJson (h p hp)

/-- A route that is described is regular. -/
theorem Describes.regular {operation : Json} {route : Route} (h : Describes operation route) :
    route.Regular := by
  cases h with
  | absent => exact fun _ hp => absurd hp List.not_mem_nil
  | null => exact fun _ hp => absurd hp List.not_mem_nil
  | @list fields values parameters _ hvalues =>
    intro p hp
    obtain ⟨i, hi, rfl⟩ := List.mem_iff_getElem.mp hp
    have hi' : i < values.length := hvalues.length_eq.symm ▸ hi
    exact Parameter.regular_ofJson (hvalues.get hi' hi)

variable {table : Table}

theorem mem_itemAt_iff {path method : String} {operation : Json} :
    (method, operation) ∈ table.itemAt path ↔
      ∃ route, ⟨path, method, route⟩ ∈ table.entries ∧ operation = route.toJson := by
  unfold Table.itemAt
  simp only [List.mem_map, List.mem_filter, decide_eq_true_eq, Prod.mk.injEq]
  constructor
  · rintro ⟨⟨path', method', route⟩, ⟨he, rfl⟩, rfl, rfl⟩
    exact ⟨route, he, rfl⟩
  · rintro ⟨route, he, rfl⟩
    exact ⟨_, ⟨he, rfl⟩, rfl, rfl⟩

theorem mem_paths_toDocument_iff {path : String} {item : List (String × Json)} :
    (path, item) ∈ table.toDocument.paths ↔
      (∃ e ∈ table.entries, e.path = path) ∧ item = table.itemAt path := by
  unfold Table.toDocument
  simp only [List.mem_map, List.mem_dedup, Prod.mk.injEq]
  constructor
  · rintro ⟨path', hpath, rfl, rfl⟩
    exact ⟨hpath, rfl⟩
  · rintro ⟨hpath, rfl⟩
    exact ⟨path, hpath, rfl, rfl⟩

theorem nodup_names_toDocument (table : Table) : (Fields.names table.toDocument.paths).Nodup := by
  have hnames : Fields.names table.toDocument.paths = (table.entries.map Entry.path).dedup := by
    unfold Fields.names Table.toDocument
    rw [List.map_map]
    exact List.map_id _
  rw [hnames]
  exact List.nodup_dedup _

/-- Under one path no method is written twice. -/
theorem nodup_names_itemAt (table : Table) (path : String) :
    (Fields.names (table.itemAt path)).Nodup := by
  have hnames : Fields.names (table.itemAt path) =
      (table.entries.filter (·.path = path)).map Entry.method := by
    unfold Fields.names Table.itemAt
    rw [List.map_map]
    rfl
  rw [hnames]
  have hincreasing := table.increasing.filter (·.path = path)
  refine List.pairwise_map.mpr (hincreasing.imp_of_mem fun {a b} ha hb hab heq => ?_)
  have hpath : a.path = path := of_decide_eq_true (List.mem_filter.mp ha).2
  have hpath' : b.path = path := of_decide_eq_true (List.mem_filter.mp hb).2
  exact hab.not_samePlace ⟨hpath.trans hpath'.symm, heq⟩

/-- The operations that a table is written as are its entries. -/
theorem mem_operations_toDocument_iff (h : table.Regular) {op : Operation} :
    op ∈ table.toDocument.operations ↔
      ∃ route, ⟨op.path, op.key, route⟩ ∈ table.entries ∧ op.value = route.toJson := by
  rw [mem_operations_iff]
  constructor
  · rintro ⟨item, hpath, hop, -⟩
    obtain ⟨-, rfl⟩ := mem_paths_toDocument_iff.mp hpath
    exact mem_itemAt_iff.mp hop
  · rintro ⟨route, he, hvalue⟩
    refine ⟨_, mem_paths_toDocument_iff.mpr ⟨⟨_, he, rfl⟩, rfl⟩,
      mem_itemAt_iff.mpr ⟨route, he, hvalue⟩, ?_⟩
    have hlower : Ascii.lower op.key = op.key := table.lowered ⟨op.path, op.key, route⟩ he
    unfold NamesMethod
    rw [hlower]
    exact (h _ he).1

/-! ## Reading back -/

/-- Each operation that is written for a place describes the route of the table there. -/
theorem describes_of_mem_operations (h : table.Regular) {op : Operation}
    (hop : op ∈ table.toDocument.operations) {path method : String}
    (hfor : op.IsFor path method) :
    ∃ route, table.get? path method = some route ∧ Describes op.value route := by
  obtain ⟨route, he, hvalue⟩ := (mem_operations_toDocument_iff h).mp hop
  obtain ⟨hlower, hget⟩ := (table.mem_entries_iff _).mp he
  obtain ⟨rfl, hmethod⟩ := hfor
  have hkey : table.get? op.path method = table.get? op.path op.key := by
    rw [← Table.get?_lower, ← hmethod, Table.get?_lower]
  refine ⟨route, hkey.trans hget, ?_⟩
  rw [hvalue]
  exact describes_toJson (h _ he).2

/-- Some operation is written for each place that has a route. -/
theorem exists_mem_operations (h : table.Regular) {path method : String} {route : Route}
    (hget : table.get? path method = some route) :
    ∃ op ∈ table.toDocument.operations, op.IsFor path method := by
  have he : ⟨path, Ascii.lower method, route⟩ ∈ table.entries := by
    refine (table.mem_entries_iff _).mpr ⟨Ascii.lower_lower method, ?_⟩
    rwa [Table.get?_lower]
  refine ⟨⟨path, Ascii.lower method, route.toJson⟩,
    (mem_operations_toDocument_iff h).mpr ⟨route, he, rfl⟩, rfl, Ascii.lower_lower method⟩

/-- A regular table is read back. -/
theorem ofDocument_of_regular (h : table.Regular) :
    Table.ofDocument table.toDocument = .ok table := by
  rw [ofDocument_eq_foldlM]
  obtain ⟨result, hresult⟩ : ∃ result,
      table.toDocument.operations.foldlM Operation.load Table.empty = .ok result := by
    refine exists_foldlM_load_iff.mpr fun op hop => ?_
    obtain ⟨route, -, hroute⟩ := describes_of_mem_operations h hop ⟨rfl, rfl⟩
    exact ⟨route, hroute⟩
  have hget : ∀ path method route,
      result.get? path method = some route ↔ table.get? path method = some route := by
    intro path method route
    rw [get?_foldlM_load hresult]
    constructor
    · rintro ⟨op, hlast, hroute⟩
      obtain ⟨route', hget', hroute'⟩ := describes_of_mem_operations h hlast.mem.1 hlast.mem.2
      rw [hget', hroute.unique hroute']
    · intro hget
      obtain ⟨op, hlast⟩ := exists_isLast_iff.mpr (exists_mem_operations h hget)
      obtain ⟨route', hget', hroute'⟩ := describes_of_mem_operations h hlast.mem.1 hlast.mem.2
      obtain rfl := Option.some.inj (hget.symm.trans hget')
      exact ⟨op, hlast, hroute'⟩
  have heq : result = table :=
    Table.ext_get? fun path method => Option.ext fun route => hget path method route
  rw [hresult, heq]

/-- A table that is loaded is regular. -/
theorem regular_of_ofDocument {document : Document} (h : Table.ofDocument document = .ok table) :
    table.Regular := by
  intro e he
  obtain ⟨hlower, hget⟩ := (table.mem_entries_iff e).mp he
  rw [ofDocument_eq_foldlM] at h
  obtain ⟨op, hlast, hroute⟩ := (get?_foldlM_load h).mp hget
  obtain ⟨hop, -, hkey⟩ := hlast.mem
  obtain ⟨-, -, -, hmethod⟩ := mem_operations_iff.mp hop
  refine ⟨?_, hroute.regular⟩
  unfold NamesMethod at hmethod
  rwa [hkey, hlower] at hmethod

/-! ## The theorem -/

/-- **Tables can be written and read back.** A regular table is written as a document, with each
path once and each method once under a path, and that document is loaded to the same table. Every
table that is loaded is regular; so to load a document, to write its table and to load that again
is to load the document. -/
theorem ofDocument_toDocument :
    (∀ table : Table, table.Regular →
      (Fields.names table.toDocument.paths).Nodup ∧
      (∀ path item, (path, item) ∈ table.toDocument.paths → (Fields.names item).Nodup) ∧
      Table.ofDocument table.toDocument = .ok table) ∧
    (∀ document table, Table.ofDocument document = .ok table → table.Regular) ∧
    ∀ document, (Table.ofDocument document >>= fun table => Table.ofDocument table.toDocument) =
      Table.ofDocument document := by
  refine ⟨fun table h => ⟨nodup_names_toDocument table, fun path item hitem => ?_,
    ofDocument_of_regular h⟩, fun document table h => regular_of_ofDocument h, fun document => ?_⟩
  · obtain ⟨-, rfl⟩ := mem_paths_toDocument_iff.mp hitem
    exact nodup_names_itemAt table path
  · cases h : Table.ofDocument document with
    | error e => rfl
    | ok table => exact ofDocument_of_regular (regular_of_ofDocument h)

/-- A table with a name twice among what is required, a body that has a name, a parameter that is
not enforced and one without a schema. -/
def listing : Table :=
  let page : Schema :=
    .object ["id", "id"] [("id", .integer), ("open", .array (.unrecognized "boolean"))]
  (Table.empty.insert "/items" "Post"
    ⟨[⟨"page", .body, some page⟩, ⟨"X-Trace", .other, some .string⟩]⟩).insert "/items" "get"
    ⟨[⟨"limit", .query, none⟩]⟩

/-- All of it is read back. -/
theorem ofDocument_listing : listing.Regular ∧
    Table.ofDocument listing.toDocument = .ok listing ∧
    Fields.names listing.toDocument.paths = ["/items"] := by
  have hsorted : Fields.Sorted
      [("id", Schema.integer), ("open", .array (.unrecognized "boolean"))] := by
    unfold Fields.Sorted
    decide
  have hopen : (Schema.array (.unrecognized "boolean")).Regular :=
    .array (.unrecognized (by decide))
  have hpage : (Schema.object ["id", "id"]
      [("id", .integer), ("open", .array (.unrecognized "boolean"))]).Regular := by
    refine .object hsorted fun p hp => ?_
    rcases List.mem_cons.mp hp with rfl | hp
    · exact .integer
    · obtain rfl := List.mem_singleton.mp hp
      exact hopen
  have hregular : listing.Regular := by
    unfold listing
    refine (regular_empty.insert "/items" (by decide) fun p hp => ?_).insert "/items" (by decide)
      fun p hp => ?_
    · simp only [List.mem_cons, List.not_mem_nil, or_false] at hp
      rcases hp with rfl | rfl
      · rintro schema ⟨⟩
        exact hpage
      · rintro schema ⟨⟩
        exact .string
    · obtain rfl := List.mem_singleton.mp hp
      rintro schema ⟨⟩
  exact ⟨hregular, (ofDocument_toDocument.1 listing hregular).2.2, by decide⟩

end Gatehouse.Rules
