import Gatehouse.Proofs.Json.NoContent
import Gatehouse.Proofs.Schema.Forms
import Gatehouse.Rules.Document
/-!
The forms that rules can be written in.

A rules document is written as an object with `paths`, or as a list of the value of this one field,
which may be left out:

    {"paths": …}     any other fields are ignored
    [{…}]            the paths
    []               no paths, so that every request is accepted

A text that does not open an object is no rules document unless it is one of these lists
(`readsList_of_parse`). The forms of a schema are those of `Schema.Record`. All of this together is
`forms_of_loaded`.
-/

namespace Gatehouse

namespace Json

/-! ## Lemmas: objects and lists in a text -/

/-- The text opens an object: the first of its bytes that is no blank is a brace. -/
def OpensObject (text : String) : Prop :=
  ∃ blanks rest, Blanks blanks ∧ Utf8.encode text = blanks ++ '\x7b'.toUInt8 :: rest

theorem readFrom_eq_ok_iff {α : Type} {opening : UInt8} {expected : String} {read : Reader α}
    {bytes rest : List UInt8} {a : α} :
    readFrom opening expected read bytes = .ok (a, rest) ↔
      ∃ tail, skipBlanks bytes = opening :: tail ∧ read tail = .ok (a, rest) := by
  unfold readFrom
  cases skipBlanks bytes with
  | nil => simp
  | cons b tail =>
    by_cases hb : b = opening
    · simp [hb]
    · simp [hb]

/-- What is neither a list nor an object is read without the readers for these. -/
theorem readWith_cases {list object : Reader Json} {bytes rest : List UInt8} {value : Json}
    (h : readWith list object bytes = .ok (value, rest)) :
    (∃ tail, skipBlanks bytes = '['.toUInt8 :: tail ∧ list tail = .ok (value, rest)) ∨
    (∃ tail, skipBlanks bytes = '\x7b'.toUInt8 :: tail ∧ object tail = .ok (value, rest)) ∨
    (∀ items, value ≠ .array items) ∧ ∀ fields, value ≠ .object fields := by
  rw [readWith] at h
  split at h
  · cases h
  · next b tail hskip =>
    -- the three words, the two signs of a number, a string, and then the brackets
    split at h
    · obtain ⟨-, rfl⟩ := wordValue_eq_ok_iff.mp h
      exact .inr (.inr ⟨by simp, by simp⟩)
    split at h
    · obtain ⟨-, rfl⟩ := wordValue_eq_ok_iff.mp h
      exact .inr (.inr ⟨by simp, by simp⟩)
    split at h
    · obtain ⟨-, rfl⟩ := wordValue_eq_ok_iff.mp h
      exact .inr (.inr ⟨by simp, by simp⟩)
    split at h
    · obtain ⟨_, -, rfl⟩ := mapRead_eq_ok_iff.mp h
      exact .inr (.inr ⟨by simp, by simp⟩)
    split at h
    · obtain ⟨_, -, rfl⟩ := mapRead_eq_ok_iff.mp h
      exact .inr (.inr ⟨by simp, by simp⟩)
    split at h
    · obtain ⟨_, -, rfl⟩ := mapRead_eq_ok_iff.mp h
      exact .inr (.inr ⟨by simp, by simp⟩)
    split at h
    · next hb => exact .inl ⟨tail, hb ▸ hskip, h⟩
    split at h
    · next hb => exact .inr (.inl ⟨tail, hb ▸ hskip, h⟩)
    · cases h

variable {depth : Nat} {bytes tail rest : List UInt8}

theorem readValue_of_brace (hskip : skipBlanks bytes = '\x7b'.toUInt8 :: tail) :
    readValue (depth + 1) bytes =
      mapRead .object (readObject (putField (readValue depth)) []) tail := by
  rw [readValue, readWith, hskip]
  rfl

theorem readValue_of_bracket (hskip : skipBlanks bytes = '['.toUInt8 :: tail) :
    readValue (depth + 1) bytes =
      mapRead (fun items => .array items.reverse) (readList (pushItem (readValue depth)) [])
        tail := by
  rw [readValue, readWith, hskip]
  rfl

/-- A value that is read is an object iff the text opens one. -/
theorem opensObject_iff {text : String} {value : Json} (h : parse text = .ok value) :
    OpensObject text ↔ ∃ fields, value = .object fields := by
  obtain ⟨rest, hread, -⟩ := readAll_eq_ok_iff.mp h
  have hopens : OpensObject text ↔
      ∃ tail, skipBlanks (Utf8.encode text) = '\x7b'.toUInt8 :: tail := by
    simp only [skipBlanks_eq_cons_iff (by decide : isBlankByte '\x7b'.toUInt8 = false)]
    exact exists_comm
  rw [hopens]
  constructor
  · rintro ⟨tail, hskip⟩
    rw [maxDepth, readValue_of_brace hskip] at hread
    obtain ⟨fields, -, hfields⟩ := mapRead_eq_ok_iff.mp hread
    exact ⟨fields, hfields.symm⟩
  · rintro ⟨fields, rfl⟩
    rw [maxDepth, readValue] at hread
    rcases readWith_cases hread with ⟨tail, -, hlist⟩ | ⟨tail, hskip, -⟩ | ⟨-, hnot⟩
    · obtain ⟨items, -, hitems⟩ := mapRead_eq_ok_iff.mp hlist
      cases hitems
    · exact ⟨tail, hskip⟩
    · exact absurd rfl (hnot fields)

/-- Fields are read into another state alike, if each of them is. -/
theorem readFields_map {σ τ : Type} {f : σ → τ} {field : σ → String → Reader σ}
    {field' : τ → String → Reader τ}
    (hfield : ∀ state key bytes state' rest, field state key bytes = .ok (state', rest) →
      field' (f state) key bytes = .ok (f state', rest))
    {turns : Nat} {first : Bool} {state state' : σ}
    (h : readFields field turns first state bytes = .ok (state', rest)) :
    readFields field' turns first (f state) bytes = .ok (f state', rest) := by
  induction turns generalizing first state bytes with
  | zero => cases h
  | succ turns ih =>
    simp only [readFields] at h ⊢
    split at h
    · cases h
    · cases h
      rfl
    · split at h
      · cases h
      · split at h
        · cases h
        · next hread =>
          simp only [hfield _ _ _ _ _ hread]
          exact ih h

/-- The end of a list. -/
theorem closeRecord_eq_ok_iff :
    closeRecord bytes = .ok rest ↔ skipBlanks bytes = ']'.toUInt8 :: rest := by
  unfold closeRecord
  cases skipBlanks bytes with
  | nil => simp
  | cons b tail =>
    by_cases hb : b = ']'.toUInt8
    · simp [hb]
    · simp only [if_neg hb]
      split
      · cases skipBlanks tail <;> simp [hb]
      · simp [hb]

/-- A list of one item. -/
theorem readList_singleton {value : Reader Json} {inner behind : List UInt8} {v : Json}
    (hnext : nextItem true tail = .ok (.more inner)) (hread : value inner = .ok (v, behind))
    (hclose : skipBlanks behind = ']'.toUInt8 :: rest) :
    readList (pushItem value) [] tail = .ok ([v], rest) := by
  have hclosed : nextItem false behind = .ok (.closed rest) := by
    unfold nextItem
    rw [hclose]
    rfl
  cases tail with
  | nil => cases hnext
  | cons b tail =>
    unfold readList
    simp only [List.length_cons, readItems, hnext, pushItem, hread, hclosed]

end Json

namespace Rules

/-! ## Documents -/

/-- The items of paths as one object, each of them an object. -/
def pathsJson (paths : List (String × List (String × Json))) : List (String × Json) :=
  paths.map fun item => (item.1, .object item.2)

/-- A list is a rules document, and this is its table. -/
inductive ReadsList : Json → Table → Prop
  | empty : ReadsList (.array []) .empty
  | paths {paths : List (String × List (String × Json))} {table : Table} :
      Table.ofDocument ⟨paths⟩ = .ok table → ReadsList (.array [.object (pathsJson paths)]) table

/-! ## Lemmas: paths -/

theorem pathsJson_put (paths : List (String × List (String × Json))) (path : String)
    (item : List (String × Json)) :
    pathsJson (Fields.put paths path item) = Fields.put (pathsJson paths) path (.object item) := by
  induction paths with
  | nil => rfl
  | cons other paths ih =>
    obtain ⟨name, found⟩ := other
    unfold pathsJson at ih ⊢
    by_cases hname : name = path
    · simp [Fields.put, hname]
    · simp [Fields.put, hname, ih]

open Json

variable {bytes rest : List UInt8}

/-- The brackets that are open around an item are those around its fields. -/
theorem readValue_of_readItem {item : List (String × Json)}
    (h : Document.readItem bytes = .ok (item, rest)) :
    readValue (maxDepth - 2) bytes = .ok (.object item, rest) := by
  obtain ⟨tail, hskip, hread⟩ := readFrom_eq_ok_iff.mp h
  exact (readValue_of_brace hskip).trans (mapRead_eq_ok_iff.mpr ⟨item, hread, rfl⟩)

/-- A path with its item is read as a field. -/
theorem putField_of_readPath {paths paths' : List (String × List (String × Json))} {path : String}
    (h : Document.readPath paths path bytes = .ok (paths', rest)) :
    putField (readValue (maxDepth - 2)) (pathsJson paths) path bytes =
      .ok (pathsJson paths', rest) := by
  unfold Document.readPath at h
  unfold putField
  cases hcolon : skipColon bytes with
  | error e =>
    rw [hcolon] at h
    cases h
  | ok behind =>
    rw [hcolon] at h
    obtain ⟨item, hitem, rfl⟩ := mapRead_eq_ok_iff.mp h
    simp only [readValue_of_readItem hitem, pathsJson_put]

/-- Paths are read as an object of objects. -/
theorem readValue_of_readPaths {paths : List (String × List (String × Json))}
    (h : readFrom '\x7b'.toUInt8 "a map" (readObject Document.readPath []) bytes =
      .ok (paths, rest)) :
    readValue (maxDepth - 1) bytes = .ok (.object (pathsJson paths), rest) := by
  obtain ⟨tail, hskip, hread⟩ := readFrom_eq_ok_iff.mp h
  refine (readValue_of_brace hskip).trans (mapRead_eq_ok_iff.mpr ⟨pathsJson paths, ?_, rfl⟩)
  exact readFields_map (fun _ _ _ _ _ => putField_of_readPath) hread

/-! ## Lemmas: lists -/

/-- A document that opens a list is an empty list, or has its paths as the one item. -/
theorem readValue_of_read {tail : List UInt8} {document : Document}
    (hskip : skipBlanks bytes = '['.toUInt8 :: tail)
    (h : Document.read bytes = .ok (document, rest)) :
    (document = ⟨[]⟩ ∧ readValue maxDepth bytes = .ok (.array [], rest)) ∨
    readValue maxDepth bytes = .ok (.array [.object (pathsJson document.paths)], rest) := by
  have hvalue : readValue maxDepth bytes = _ := readValue_of_bracket hskip
  rw [hvalue]
  unfold Document.read readRecord at h
  rw [hskip] at h
  have hitems : recordItems Document.fields true ⟨[]⟩ tail = .ok (document, rest) := h
  unfold Document.fields recordItems at hitems
  unfold readList
  split at hitems
  · cases hitems
  · next hnext =>
    cases hitems
    refine .inl ⟨rfl, mapRead_eq_ok_iff.mpr ⟨[], ?_, rfl⟩⟩
    simp only [readItems, hnext]
  · next hnext =>
    right
    split at hitems
    · cases hitems
    · next hfield =>
      obtain ⟨paths, hpaths, rfl⟩ := mapRead_eq_ok_iff.mp hfield
      unfold recordItems at hitems
      split at hitems
      · cases hitems
      · next hclose =>
        cases hitems
        have hlist := readList_singleton hnext (readValue_of_readPaths hpaths)
          (closeRecord_eq_ok_iff.mp hclose)
        exact mapRead_eq_ok_iff.mpr ⟨_, hlist, rfl⟩

/-- A document opens an object or a list. -/
theorem opens_of_read {document : Document} (h : Document.read bytes = .ok (document, rest)) :
    ∃ tail, skipBlanks bytes = '\x7b'.toUInt8 :: tail ∨ skipBlanks bytes = '['.toUInt8 :: tail := by
  unfold Document.read readRecord at h
  split at h
  · cases h
  · next b tail hskip =>
    rw [hskip]
    split at h
    · next hb => exact ⟨tail, .inl (by rw [hb])⟩
    split at h
    · next hb => exact ⟨tail, .inr (by rw [hb])⟩
    · cases h

/-- What opens no object and is read as rules is one of the two lists. -/
theorem readsList_of_parse {text : String} {table : Table} (hopens : ¬OpensObject text)
    (h : Table.parse text = .ok table) :
    ∃ value, Json.parse text = .ok value ∧ ReadsList value table := by
  unfold Table.parse Table.parseFrom at h
  split at h
  · cases h
  · next document hdocument =>
    obtain ⟨rest, hread, hrest⟩ := readAll_eq_ok_iff.mp hdocument
    obtain ⟨tail, hbrace | hbracket⟩ := opens_of_read hread
    · obtain ⟨blanks, hblanks, htext⟩ := (skipBlanks_eq_cons_iff (by decide)).mp hbrace
      exact absurd ⟨blanks, tail, hblanks, htext⟩ hopens
    · rcases readValue_of_read hbracket hread with ⟨rfl, hvalue⟩ | hvalue
      · obtain rfl : Table.empty = table := Except.ok.inj h
        exact ⟨_, readAll_eq_ok_iff.mpr ⟨rest, hvalue, hrest⟩, .empty⟩
      · exact ⟨_, readAll_eq_ok_iff.mpr ⟨rest, hvalue, hrest⟩, .paths h⟩

/-- The empty list is a document without paths. -/
theorem parse_of_nil {text : String} (h : Json.parse text = .ok (.array [])) :
    Table.parse text = .ok .empty := by
  obtain ⟨before, core, after, hbefore, hcore, hafter, htext⟩ :=
    (parseBytes_noContent_iff .array).mp h
  cases hcore with
  | @array inner hinner =>
    have hnext : nextItem true (inner ++ ']'.toUInt8 :: after) = .ok (.closed after) :=
      nextItem_closed_iff.mpr ⟨inner, hinner, rfl⟩
    have hskip : skipBlanks (Utf8.encode text) = '['.toUInt8 :: (inner ++ ']'.toUInt8 :: after) :=
      (skipBlanks_eq_cons_iff (by decide)).mpr ⟨before, hbefore, by simp [htext]⟩
    have hread : Document.read (Utf8.encode text) = .ok (⟨[]⟩, after) := by
      unfold Document.read readRecord
      rw [hskip]
      show recordItems Document.fields true ⟨[]⟩ (inner ++ ']'.toUInt8 :: after) = _
      simp only [Document.fields, recordItems, hnext]
    unfold Table.parse Table.parseFrom
    rw [readAll_eq_ok_iff.mpr ⟨after, hread, hafter⟩]
    rfl

/-! ## The theorem -/

/-- **Records are objects or lists.** A text that is loaded as rules opens an object, and is an
object if it is JSON, or else it is the empty list, which gives the empty table, or the list of an
object of paths. The empty list is always loaded. A value that is read as a schema is an object or
a list of at most the four values of the fields, and so is every value that it uses as a schema, at
any depth; a list is read as the object with the same values. -/
theorem forms_of_loaded (text : String) (value : Json) :
    (∀ table, Table.parse text = .ok table → OpensObject text ∨
      ∃ list, Json.parse text = .ok list ∧ ReadsList list table) ∧
    (∀ found, Json.parse text = .ok found →
      (OpensObject text ↔ ∃ fields, found = .object fields)) ∧
    (Json.parse text = .ok (.array []) → Table.parse text = .ok .empty) ∧
    (∀ schema inner, Schema.decode value = .ok schema → Schema.Within value inner →
      ∃ fields, Schema.Record inner fields) ∧
    ∀ fields, Schema.Record value fields →
      Schema.decode value = Schema.decode (.object fields) := by
  refine ⟨fun table h => ?_, fun _ => opensObject_iff, parse_of_nil, fun _ _ h hwithin => ?_,
    fun _ => Schema.decode_of_record⟩
  · by_cases hopens : OpensObject text
    · exact .inl hopens
    · exact .inr (readsList_of_parse hopens h)
  · obtain ⟨_, hinner⟩ := hwithin.decode h
    exact Schema.exists_record_of_decode hinner

/-- The list of a type alone is read as a schema. -/
theorem decode_nameList : Schema.decode (.array [.string "string"]) = .ok .string := by
  simp [Schema.decode, Schema.fromList, Schema.typeOf, Schema.Parts.toSchema, Schema.leaf, bind,
    Except.bind, pure, Except.pure]

/-- The two lists at work: one is loaded as rules, the other is read as a schema. -/
theorem forms_of_nameList :
    Table.parse "[]" = .ok .empty ∧
      (∃ fields, Schema.Record (.array [.string "string"]) fields) ∧
      Schema.decode (.array [.string "string"]) =
        Schema.decode (.object [("type", .string "string")]) := by
  obtain ⟨-, -, hnil, hwithin, hlist⟩ := forms_of_loaded "[]" (.array [.string "string"])
  have hrecord : Schema.Record (.array [.string "string"]) [("type", .string "string")] :=
    .list (List.cons_ne_nil _ _) (by decide)
  exact ⟨hnil rfl, hwithin _ _ decode_nameList .itself, hlist _ hrecord⟩

/-- A text whose value is no object is loaded as rules, and accepts everything, and a value that
is no object is read as a schema; so are the items of an array. -/
theorem loaded_lists :
    Json.parse "[]" = .ok (.array []) ∧ Table.parse "[]" = .ok .empty ∧
      Schema.decode (.array [.string "string"]) = .ok .string ∧
      Schema.decode (.object [("type", .string "array"), ("items", .array [.string "string"])]) =
        .ok (.array .string) := by
  refine ⟨rfl, rfl, decode_nameList, ?_⟩
  simp [Schema.decode, Schema.fromFields, Schema.itemsOf, Schema.typeOf, Schema.Parts.toSchema,
    decode_nameList]

end Rules

end Gatehouse
