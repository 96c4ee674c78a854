import Gatehouse.Proofs.Lists.Runs
import Gatehouse.Proofs.Rules.Insertions
import Gatehouse.Rules.Document
/-!
What a rules document comes to.

A document declares, for a path and a method, the route of the last operation that its item for
the path has under a name of the method, in any letter case. Loading it gives just what it
declares, and fails just where some operation of it describes no route.

    (∃ table, ofDocument document = .ok table)  ↔  every operation describes a route
    ofDocument document = .ok table  →
      (table.get? path method = some route  ↔  document.Declares path method route)
                                                               (ofDocument_declares)

Nothing is said of the order of the paths, so two documents with the same items in another order
are loaded to the same table, or fail both.
-/

namespace Gatehouse.Rules

/-! ## What a document declares -/

/-- The name of a method, in any letter case. -/
def NamesMethod (key : String) : Prop :=
  Ascii.lower key ∈ methods

instance (key : String) : Decidable (NamesMethod key) :=
  inferInstanceAs (Decidable (_ ∈ _))

/-- The value is an operation with the parameters of a route, in order. -/
inductive Describes : Json → Route → Prop
  | absent {fields : List (String × Json)} :
      Fields.get? fields "parameters" = none → Describes (.object fields) ⟨[]⟩
  | null {fields : List (String × Json)} :
      Fields.get? fields "parameters" = some .null → Describes (.object fields) ⟨[]⟩
  | list {fields : List (String × Json)} {values : List Json} {parameters : List Parameter} :
      Fields.get? fields "parameters" = some (.array values) →
      List.Forall₂ (fun value parameter => Parameter.ofJson value = .ok parameter) values
        parameters →
      Describes (.object fields) ⟨parameters⟩

/-- The route is described by the last operation for a method in the item of a path. -/
def Document.Declares (document : Document) (path method : String) (route : Route) : Prop :=
  NamesMethod method ∧ ∃ item before key operation after,
    (path, item) ∈ document.paths ∧ item = before ++ (key, operation) :: after ∧
    Ascii.lower key = Ascii.lower method ∧
    (∀ field ∈ after, Ascii.lower field.1 ≠ Ascii.lower method) ∧ Describes operation route

/-- Some operation for the method is in the item of the path. -/
def Document.Mentions (document : Document) (path method : String) : Prop :=
  NamesMethod method ∧ ∃ item key operation,
    (path, item) ∈ document.paths ∧ (key, operation) ∈ item ∧
    Ascii.lower key = Ascii.lower method

/-- Two operations, if they are operations at all, have the same parameters. -/
inductive SameParameters : Json → Json → Prop
  | refl (operation : Json) : SameParameters operation operation
  | object {fields fields' : List (String × Json)} :
      Fields.get? fields "parameters" = Fields.get? fields' "parameters" →
      SameParameters (.object fields) (.object fields')

/-- The same operations stand under the names of methods. -/
def SameOperations (item item' : List (String × Json)) : Prop :=
  List.Forall₂ (fun field field' => field.1 = field'.1 ∧ SameParameters field.2 field'.2)
    (item.filter fun field => NamesMethod field.1) (item'.filter fun field => NamesMethod field.1)

/-- The documents have the same paths, with the same operations. -/
def Document.Same (document document' : Document) : Prop :=
  List.Forall₂ (fun path path' => path.1 = path'.1 ∧ SameOperations path.2 path'.2)
    document.paths document'.paths

/-! ## Lemmas: one operation -/

theorem parametersOf_eq_ok_iff {operation : Json} {values : List Json} :
    parametersOf operation = .ok values ↔ ∃ fields, operation = .object fields ∧
      (Fields.get? fields "parameters" = none ∧ values = [] ∨
        Fields.get? fields "parameters" = some .null ∧ values = [] ∨
        Fields.get? fields "parameters" = some (.array values)) := by
  cases operation with
  | object fields =>
    unfold parametersOf
    cases hget : Fields.get? fields "parameters" with
    | none => simp [hget, eq_comm]
    | some value => cases value <;> simp [hget, eq_comm]
  | null => simp [parametersOf]
  | bool b => simp [parametersOf]
  | number n => simp [parametersOf]
  | string s => simp [parametersOf]
  | array items => simp [parametersOf]

/-- An operation is read iff it describes a route. -/
theorem routeOf_eq_ok_iff {path method : String} {operation : Json} {route : Route} :
    routeOf path method operation = .ok route ↔ Describes operation route := by
  have hsplit : routeOf path method operation = .ok route ↔
      ∃ values, parametersOf operation = .ok values ∧
        values.mapM Parameter.ofJson = .ok route.parameters := by
    unfold routeOf
    obtain ⟨parameters⟩ := route
    cases parametersOf operation with
    | error reason => simp
    | ok values => cases hread : values.mapM Parameter.ofJson <;> simp [hread]
  rw [hsplit]
  simp only [parametersOf_eq_ok_iff, mapM_eq_ok_iff]
  constructor
  · rintro ⟨values, ⟨fields, rfl, hget⟩, hvalues⟩
    obtain ⟨parameters⟩ := route
    rcases hget with ⟨hget, rfl⟩ | ⟨hget, rfl⟩ | hget
    · obtain rfl := List.forall₂_nil_left_iff.mp hvalues
      exact .absent hget
    · obtain rfl := List.forall₂_nil_left_iff.mp hvalues
      exact .null hget
    · exact .list hget hvalues
  · intro h
    cases h with
    | @absent fields hget => exact ⟨[], ⟨fields, rfl, .inl ⟨hget, rfl⟩⟩, .nil⟩
    | @null fields hget => exact ⟨[], ⟨fields, rfl, .inr (.inl ⟨hget, rfl⟩)⟩, .nil⟩
    | @list fields values _ hget hvalues =>
      exact ⟨values, ⟨fields, rfl, .inr (.inr hget)⟩, hvalues⟩

/-- An operation describes at most one route. -/
theorem Describes.unique {operation : Json} {route route' : Route}
    (h : Describes operation route) (h' : Describes operation route') : route = route' := by
  have hread : routeOf "" "" operation = .ok route := routeOf_eq_ok_iff.mpr h
  rw [routeOf_eq_ok_iff.mpr h'] at hread
  exact (Except.ok.inj hread).symm

theorem SameParameters.parametersOf_eq {operation operation' : Json}
    (h : SameParameters operation operation') :
    parametersOf operation = parametersOf operation' := by
  cases h with
  | refl => rfl
  | object hget => simp only [parametersOf, hget]

/-! ## The operations of a document, in a row -/

/-- An operation as it stands in a document: with the path and the name that it stands under. -/
structure Operation where
  path : String
  key : String
  value : Json

/-- The operation is for the path, and for the method in any letter case. -/
def Operation.IsFor (path method : String) (op : Operation) : Prop :=
  op.path = path ∧ Ascii.lower op.key = Ascii.lower method

instance (path method : String) : DecidablePred (Operation.IsFor path method) :=
  fun _ => inferInstanceAs (Decidable (_ ∧ _))

/-- Takes an operation up. -/
def Operation.load (table : Table) (op : Operation) : Except Error Table :=
  match routeOf op.path (Ascii.lower op.key) op.value with
  | .error e => .error e
  | .ok route => .ok (table.insert op.path (Ascii.lower op.key) route)

/-- The operations in the item of a path, in order. -/
def operationsOf (item : String × List (String × Json)) : List Operation :=
  (item.2.filter fun field => NamesMethod field.1).map fun field => ⟨item.1, field.1, field.2⟩

/-- The operations of a document, in order. -/
def Document.operations (document : Document) : List Operation :=
  document.paths.flatMap operationsOf

theorem Table.insert_lower (table : Table) (path method : String) (route : Route) :
    table.insert path (Ascii.lower method) route = table.insert path method route := by
  simp only [Table.insert, Ascii.lower_lower]

theorem Operation.load_eq_ok_iff {table result : Table} {op : Operation} :
    op.load table = .ok result ↔
      ∃ route, Describes op.value route ∧ result = table.insert op.path op.key route := by
  unfold load
  simp only [Table.insert_lower]
  constructor
  · intro h
    cases hroute : routeOf op.path (Ascii.lower op.key) op.value with
    | error e =>
      rw [hroute] at h
      cases h
    | ok route =>
      rw [hroute] at h
      exact ⟨route, routeOf_eq_ok_iff.mp hroute, (Except.ok.inj h).symm⟩
  · rintro ⟨route, hdescribes, rfl⟩
    rw [routeOf_eq_ok_iff.mpr hdescribes]

theorem operationsOf_cons (path : String) (field : String × Json) (item : List (String × Json)) :
    operationsOf (path, field :: item) =
      if NamesMethod field.1 then ⟨path, field.1, field.2⟩ :: operationsOf (path, item)
      else operationsOf (path, item) := by
  unfold operationsOf
  by_cases h : NamesMethod field.1 <;> simp [h]

/-- To add an item is to take its operations up. -/
theorem addItem_eq_foldlM (table : Table) (item : String × List (String × Json)) :
    Table.addItem table item = (operationsOf item).foldlM Operation.load table := by
  obtain ⟨path, item⟩ := item
  unfold Table.addItem
  induction item generalizing table with
  | nil => rfl
  | cons field item ih =>
    rw [List.foldlM_cons, operationsOf_cons]
    by_cases h : NamesMethod field.1
    · have hadd : Table.addOperation path table field =
          Operation.load table ⟨path, field.1, field.2⟩ := by
        unfold Table.addOperation Operation.load
        exact if_pos h
      rw [if_pos h, List.foldlM_cons, hadd]
      exact congrArg _ (funext ih)
    · have hadd : Table.addOperation path table field = .ok table := by
        unfold Table.addOperation
        exact if_neg h
      rw [if_neg h, hadd]
      exact ih table

/-- To load a document is to take its operations up. -/
theorem ofDocument_eq_foldlM (document : Document) :
    Table.ofDocument document = document.operations.foldlM Operation.load Table.empty := by
  unfold Table.ofDocument Document.operations
  generalize Table.empty = table
  induction document.paths generalizing table with
  | nil => rfl
  | cons item paths ih =>
    rw [List.foldlM_cons, List.flatMap_cons, List.foldlM_append, addItem_eq_foldlM]
    exact congrArg _ (funext ih)

/-! ## Lemmas: a run over operations -/

theorem foldlM_load_concat {ops : List Operation} {op : Operation} {start table : Table} :
    (ops ++ [op]).foldlM Operation.load start = .ok table ↔
      ∃ before route, ops.foldlM Operation.load start = .ok before ∧ Describes op.value route ∧
        table = before.insert op.path op.key route := by
  rw [List.foldlM_append, bind_eq_ok_iff]
  refine exists_congr fun before => ?_
  rw [List.foldlM_cons]
  show _ ∧ (Operation.load before op >>= pure) = _ ↔ _
  rw [bind_pure, Operation.load_eq_ok_iff, exists_and_left]

/-- All operations are taken up iff each describes a route. -/
theorem exists_foldlM_load_iff {ops : List Operation} {start : Table} :
    (∃ table, ops.foldlM Operation.load start = .ok table) ↔
      ∀ op ∈ ops, ∃ route, Describes op.value route := by
  induction ops using List.reverseRecOn with
  | nil => exact iff_of_true ⟨start, rfl⟩ fun _ h => nomatch h
  | append_singleton ops op ih =>
    simp only [foldlM_load_concat]
    constructor
    · rintro ⟨table, before, route, hbefore, hroute, -⟩ op' hop'
      rcases List.mem_append.mp hop' with hop' | hop'
      · exact ih.mp ⟨before, hbefore⟩ op' hop'
      · obtain rfl := List.mem_singleton.mp hop'
        exact ⟨route, hroute⟩
    · intro h
      obtain ⟨before, hbefore⟩ := ih.mpr fun op' hop' => h op' (List.mem_append_left _ hop')
      obtain ⟨route, hroute⟩ := h op (by simp)
      exact ⟨_, before, route, hbefore, hroute, rfl⟩

/-- The table has the routes of the last operations. -/
theorem get?_foldlM_load {ops : List Operation} {table : Table}
    (h : ops.foldlM Operation.load Table.empty = .ok table) {path method : String}
    {route : Route} :
    table.get? path method = some route ↔
      ∃ op, IsLast (Operation.IsFor path method) ops op ∧ Describes op.value route := by
  -- from the end: the last operation decides, or the operations before it do
  induction ops using List.reverseRecOn generalizing table with
  | nil =>
    obtain rfl : Table.empty = table := Except.ok.inj h
    refine iff_of_false (fun h => nomatch h) ?_
    rintro ⟨op, hlast, -⟩
    exact not_isLast_nil hlast
  | append_singleton ops op ih =>
    obtain ⟨before, route', hbefore, hroute', rfl⟩ := foldlM_load_concat.mp h
    rw [Table.get?_insert]
    simp only [isLast_concat_iff]
    by_cases hop : op.IsFor path method
    · have hcond : op.path = path ∧ Ascii.lower op.key = Ascii.lower method := hop
      simp only [if_pos hop, if_pos hcond, exists_eq_left, Option.some.injEq]
      constructor
      · rintro rfl
        exact hroute'
      · exact hroute'.unique
    · have hcond : ¬(op.path = path ∧ Ascii.lower op.key = Ascii.lower method) := hop
      simp only [if_neg hop, if_neg hcond, ih hbefore]

/-! ## Lemmas: the operations of one path -/

theorem mem_operationsOf_iff {path : String} {item : List (String × Json)} {op : Operation} :
    op ∈ operationsOf (path, item) ↔
      NamesMethod op.key ∧ op.path = path ∧ (op.key, op.value) ∈ item := by
  unfold operationsOf
  obtain ⟨path', key, value⟩ := op
  simp only [List.mem_map, List.mem_filter, decide_eq_true_eq, Operation.mk.injEq, Prod.exists]
  constructor
  · rintro ⟨k, v, ⟨hmem, hmethod⟩, rfl, rfl, rfl⟩
    exact ⟨hmethod, rfl, hmem⟩
  · rintro ⟨hmethod, rfl, hmem⟩
    exact ⟨key, value, ⟨hmem, hmethod⟩, rfl, rfl, rfl⟩

theorem mem_operations_iff {document : Document} {op : Operation} :
    op ∈ document.operations ↔ ∃ item, (op.path, item) ∈ document.paths ∧
      (op.key, op.value) ∈ item ∧ NamesMethod op.key := by
  unfold Document.operations
  rw [List.mem_flatMap]
  constructor
  · rintro ⟨⟨path, item⟩, hpath, hop⟩
    obtain ⟨hmethod, rfl, hmem⟩ := mem_operationsOf_iff.mp hop
    exact ⟨item, hpath, hmem, hmethod⟩
  · rintro ⟨item, hpath, hmem, hmethod⟩
    exact ⟨_, hpath, mem_operationsOf_iff.mpr ⟨hmethod, rfl, hmem⟩⟩

/-- Where each path has one item, the operations for a path are those of its item. -/
theorem isLast_operations_iff {document : Document}
    (hpaths : (Fields.names document.paths).Nodup) {path method : String}
    {item : List (String × Json)} (hitem : (path, item) ∈ document.paths) {op : Operation} :
    IsLast (Operation.IsFor path method) document.operations op ↔
      IsLast (Operation.IsFor path method) (operationsOf (path, item)) op := by
  obtain ⟨before, after, hsplit⟩ := List.append_of_mem hitem
  have hnames : Fields.names document.paths =
      Fields.names before ++ path :: Fields.names after := by
    unfold Fields.names
    rw [hsplit, List.map_append, List.map_cons]
  rw [hnames, List.nodup_middle, List.nodup_cons, List.mem_append, not_or] at hpaths
  obtain ⟨⟨hbefore, hafter⟩, -⟩ := hpaths
  have hother : ∀ paths : List (String × List (String × Json)), path ∉ Fields.names paths →
      ∀ op ∈ paths.flatMap operationsOf, ¬op.IsFor path method := by
    rintro paths hnot op hop ⟨rfl, -⟩
    have hop' : op ∈ (Document.mk paths).operations := hop
    obtain ⟨item', hitem', -⟩ := mem_operations_iff.mp hop'
    exact hnot (List.mem_map.mpr ⟨_, hitem', rfl⟩)
  unfold Document.operations
  rw [hsplit, List.flatMap_append, List.flatMap_cons, isLast_append_of_left (hother _ hbefore),
    isLast_append_of_right (hother _ hafter)]

theorem isLast_operationsOf_iff {path method : String} {item : List (String × Json)}
    (hmethod : NamesMethod method) {op : Operation} :
    IsLast (Operation.IsFor path method) (operationsOf (path, item)) op ↔
      ∃ field, op = ⟨path, field.1, field.2⟩ ∧
        IsLast (fun field => Ascii.lower field.1 = Ascii.lower method) item field := by
  unfold operationsOf
  rw [isLast_map_iff]
  refine exists_congr fun field => and_congr_right fun _ => ?_
  have hfor : (fun field : String × Json => Operation.IsFor path method
      ⟨path, field.1, field.2⟩) = fun field => Ascii.lower field.1 = Ascii.lower method := by
    funext field
    exact propext (and_iff_right rfl)
  rw [hfor]
  refine isLast_filter_iff fun field hfield => ?_
  rw [decide_eq_true_eq]
  unfold NamesMethod at hmethod ⊢
  rw [hfield]
  exact hmethod

/-- What a document declares, by its operations in a row. -/
theorem declares_iff {document : Document} (hpaths : (Fields.names document.paths).Nodup)
    {path method : String} {route : Route} :
    document.Declares path method route ↔
      ∃ op, IsLast (Operation.IsFor path method) document.operations op ∧
        Describes op.value route := by
  constructor
  · rintro ⟨hmethod, item, before, key, operation, after, hitem, hsplit, hkey, hafter, hroute⟩
    refine ⟨⟨path, key, operation⟩, ?_, hroute⟩
    rw [isLast_operations_iff hpaths hitem, isLast_operationsOf_iff hmethod]
    exact ⟨(key, operation), rfl, before, after, hsplit, hkey, hafter⟩
  · rintro ⟨op, hlast, hroute⟩
    obtain ⟨hop, rfl, hkey⟩ := hlast.mem
    obtain ⟨item, hitem, -, hmethod⟩ := mem_operations_iff.mp hop
    have hmethod' : NamesMethod method := by
      unfold NamesMethod at hmethod ⊢
      rwa [← hkey]
    rw [isLast_operations_iff hpaths hitem, isLast_operationsOf_iff hmethod'] at hlast
    obtain ⟨⟨key, operation⟩, heq, before, after, hsplit, hkey', hafter⟩ := hlast
    rw [heq] at hroute
    exact ⟨hmethod', item, before, key, operation, after, hitem, hsplit, hkey', hafter, hroute⟩

/-! ## Lemmas: what has no influence -/

/-- An item counts by its operations, and an operation by its parameters. -/
theorem SameOperations.addItem_eq {path : String} {item item' : List (String × Json)}
    (h : SameOperations item item') (table : Table) :
    Table.addItem table (path, item) = Table.addItem table (path, item') := by
  rw [addItem_eq_foldlM, addItem_eq_foldlM]
  refine foldlM_congr ?_ table
  unfold operationsOf
  rw [List.forall₂_map_left_iff, List.forall₂_map_right_iff]
  refine h.imp fun field field' hfield table => ?_
  obtain ⟨hkey, hsame⟩ := hfield
  simp only [Operation.load, routeOf, hkey, hsame.parametersOf_eq]

theorem Document.Same.ofDocument_eq {document document' : Document}
    (h : document.Same document') : Table.ofDocument document = Table.ofDocument document' := by
  refine foldlM_congr (h.imp fun path path' hpath table => ?_) Table.empty
  obtain ⟨path, item⟩ := path
  obtain ⟨path', item'⟩ := path'
  obtain ⟨rfl, hitem⟩ := hpath
  exact hitem.addItem_eq table

/-! ## Loading -/

theorem exists_ofDocument_iff {document : Document} :
    (∃ table, Table.ofDocument document = .ok table) ↔
      ∀ path item key operation, (path, item) ∈ document.paths → (key, operation) ∈ item →
        NamesMethod key → ∃ route, Describes operation route := by
  rw [ofDocument_eq_foldlM, exists_foldlM_load_iff]
  constructor
  · intro h path item key operation hpath hmem hmethod
    exact h ⟨path, key, operation⟩ (mem_operations_iff.mpr ⟨item, hpath, hmem, hmethod⟩)
  · intro h op hop
    obtain ⟨item, hpath, hmem, hmethod⟩ := mem_operations_iff.mp hop
    exact h op.path item op.key op.value hpath hmem hmethod

theorem get?_ofDocument {document : Document} (hpaths : (Fields.names document.paths).Nodup)
    {table : Table} (h : Table.ofDocument document = .ok table) {path method : String}
    {route : Route} :
    table.get? path method = some route ↔ document.Declares path method route := by
  rw [ofDocument_eq_foldlM] at h
  rw [declares_iff hpaths, get?_foldlM_load h]

/-- Where all operations describe routes, what is mentioned is declared. -/
theorem exists_declares_iff {document : Document} (hpaths : (Fields.names document.paths).Nodup)
    {table : Table} (h : Table.ofDocument document = .ok table) {path method : String} :
    (∃ route, document.Declares path method route) ↔ document.Mentions path method := by
  constructor
  · rintro ⟨route, hmethod, item, before, key, operation, after, hitem, rfl, hkey, -⟩
    exact ⟨hmethod, _, key, operation, hitem, by simp, hkey⟩
  · rintro ⟨hmethod, item, key, operation, hitem, hmem, hkey⟩
    have hkey' : NamesMethod key := by
      unfold NamesMethod at hmethod ⊢
      rwa [hkey]
    have hop : ∃ op ∈ document.operations, op.IsFor path method :=
      ⟨⟨path, key, operation⟩, mem_operations_iff.mpr ⟨item, hitem, hmem, hkey'⟩, rfl, hkey⟩
    obtain ⟨op, hlast⟩ := exists_isLast_iff.mpr hop
    rw [ofDocument_eq_foldlM] at h
    obtain ⟨route, hroute⟩ := exists_foldlM_load_iff.mp ⟨table, h⟩ op hlast.mem.1
    exact ⟨route, (declares_iff hpaths).mpr ⟨op, hlast, hroute⟩⟩

/-- Documents with the same items are loaded to the same table. -/
theorem ofDocument_of_perm {document document' : Document}
    (hpaths : (Fields.names document.paths).Nodup) (hperm : document.paths.Perm document'.paths)
    {table : Table} (h : Table.ofDocument document = .ok table) :
    Table.ofDocument document' = .ok table := by
  have hpaths' : (Fields.names document'.paths).Nodup :=
    (hperm.map Prod.fst).nodup_iff.mp hpaths
  obtain ⟨table', h'⟩ : ∃ table', Table.ofDocument document' = .ok table' := by
    refine exists_ofDocument_iff.mpr fun path item key operation hitem => ?_
    exact exists_ofDocument_iff.mp ⟨table, h⟩ path item key operation (hperm.mem_iff.mpr hitem)
  have hdeclares : ∀ path method route,
      document.Declares path method route ↔ document'.Declares path method route := by
    intro path method route
    unfold Document.Declares
    simp only [hperm.mem_iff]
  have htable : table = table' := by
    refine Table.ext_get? fun path method => Option.ext fun route => ?_
    rw [get?_ofDocument hpaths h, get?_ofDocument hpaths' h', hdeclares]
  rw [h', htable]

/-- **A table is what its document declares.** Let no path be twice in a document. It is loaded iff
each operation under the name of a method describes a route. Then the table has, for a path and
method, the route of the last operation for these in the item of the path, and none without such
an operation. What stands under other names, in items or in operations, has no influence, and nor
has the order of the paths. -/
theorem ofDocument_declares (document : Document)
    (hpaths : (Fields.names document.paths).Nodup) :
    ((∃ table, Table.ofDocument document = .ok table) ↔
      ∀ path item key operation, (path, item) ∈ document.paths → (key, operation) ∈ item →
        NamesMethod key → ∃ route, Describes operation route) ∧
    (∀ table, Table.ofDocument document = .ok table → ∀ path method,
      (∀ route, table.get? path method = some route ↔ document.Declares path method route) ∧
      (table.get? path method = none ↔ ¬document.Mentions path method)) ∧
    (∀ document', document.Same document' →
      Table.ofDocument document = Table.ofDocument document') ∧
    ∀ document', document.paths.Perm document'.paths → ∀ table,
      Table.ofDocument document = .ok table ↔ Table.ofDocument document' = .ok table := by
  refine ⟨exists_ofDocument_iff, fun table h path method => ⟨fun route => ?_, ?_⟩,
    fun document' h => h.ofDocument_eq, fun document' hperm table => ⟨fun h => ?_, fun h => ?_⟩⟩
  · exact get?_ofDocument hpaths h
  · rw [← exists_declares_iff hpaths h, Option.eq_none_iff_forall_ne_some]
    simp only [ne_eq, get?_ofDocument hpaths h, not_exists]
  · exact ofDocument_of_perm hpaths hperm h
  · exact ofDocument_of_perm ((hperm.map Prod.fst).nodup_iff.mp hpaths) hperm.symm h

/-- A parameter as it is written: an integer in the query. -/
def writtenPage : Json :=
  .object [("name", .string "page"), ("in", .string "query"), ("type", .string "integer")]

/-- A document that has a method twice, in different letter case, and a name of no method. -/
def twice : Document :=
  ⟨[("/p", [("get", .object [("parameters", .null)]), ("summary", .string "pages"),
    ("GET", .object [("summary", .null), ("parameters", .array [writtenPage])])])]⟩

/-- The later of the two operations counts, under the method in any letter case. -/
theorem ofDocument_twice :
    (Fields.names twice.paths).Nodup ∧ ∃ table, Table.ofDocument twice = .ok table ∧
      table.get? "/p" "Get" = some ⟨[.query "page" .integer]⟩ ∧
      table.get? "/p" "post" = none := by
  have hpaths : (Fields.names twice.paths).Nodup := by decide
  obtain ⟨hok, htable, -, -⟩ := ofDocument_declares twice hpaths
  have hread : Parameter.ofJson writtenPage = .ok (.query "page" .integer) := by cbv
  have hlast : Describes (.object [("summary", .null), ("parameters", .array [writtenPage])])
      ⟨[.query "page" .integer]⟩ := .list rfl (.cons hread .nil)
  have heach : ∀ path item key operation, (path, item) ∈ twice.paths →
      (key, operation) ∈ item → NamesMethod key → ∃ route, Describes operation route := by
    intro path item key operation hpath hmem hmethod
    obtain ⟨rfl, rfl⟩ := Prod.mk.inj (List.mem_singleton.mp hpath)
    simp only [List.mem_cons, List.not_mem_nil, or_false, Prod.mk.injEq] at hmem
    rcases hmem with ⟨rfl, rfl⟩ | ⟨rfl, rfl⟩ | ⟨rfl, rfl⟩
    · exact ⟨_, .null rfl⟩
    · exact absurd hmethod (by decide)
    · exact ⟨_, hlast⟩
  obtain ⟨table, h⟩ := hok.mpr heach
  refine ⟨hpaths, table, h, ((htable table h "/p" "Get").1 _).mpr ?_,
    (htable table h "/p" "post").2.mpr ?_⟩
  · exact ⟨by decide, _, [_, _], _, _, [], List.mem_singleton.mpr rfl, rfl, by decide,
      (fun _ h => absurd h List.not_mem_nil), hlast⟩
  · rintro ⟨-, item, key, operation, hpath, hmem, hkey⟩
    obtain ⟨-, rfl⟩ := Prod.mk.inj (List.mem_singleton.mp hpath)
    simp only [List.mem_cons, List.not_mem_nil, or_false, Prod.mk.injEq] at hmem
    rcases hmem with ⟨rfl, -⟩ | ⟨rfl, -⟩ | ⟨rfl, -⟩ <;> exact absurd hkey (by decide)

end Gatehouse.Rules
