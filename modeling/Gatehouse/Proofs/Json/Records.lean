import Gatehouse.Json.Record
import Mathlib.Data.List.Forall2
/-!
Records that are read into another state.

Let the state of a record be an image of another one: `f` takes the start to the start, and each
field is read into the image as it is into the state itself. Then so is the record, whether it is
written as an object or as a list, with the same failures:

    readRecord expected fields' (f start) = mapRead f (readRecord expected fields start)
                                                                       (readRecord_follows)
-/

namespace Gatehouse.Json

variable {σ τ : Type} {f : σ → τ}

/-- The field is read into the image of a state as the other field is into the state. -/
structure FieldReader.Follows (f : σ → τ) (field : FieldReader σ) (field' : FieldReader τ) :
    Prop where
  name : field'.name = field.name
  read : ∀ state, field'.read (f state) = mapRead f (field.read state)

/-! ## Changing what was read -/

theorem mapRead_mapRead {α β γ : Type} (g : β → γ) (h : α → β) (read : Reader α) :
    mapRead g (mapRead h read) = mapRead (fun a => g (h a)) read := by
  funext bytes
  unfold mapRead
  cases read bytes <;> rfl

/-- A value is set in the image as it is in the state. -/
theorem FieldReader.Follows.of_set {α : Type} {set : σ → α → σ} {set' : τ → α → τ}
    (h : ∀ state a, set' (f state) a = f (set state a)) (name : String) (read : Reader α) :
    FieldReader.Follows f ⟨name, fun state => mapRead (set state) read⟩
      ⟨name, fun state => mapRead (set' state) read⟩ := by
  refine ⟨rfl, fun state => ?_⟩
  rw [mapRead_mapRead]
  exact congrArg (mapRead · read) (funext (h state))

/-- A whole text is read with the same errors. -/
theorem readAll_mapRead {α β : Type} (g : α → β) (read : Reader α) (bytes : List UInt8) :
    readAll (mapRead g read) bytes = (readAll read bytes).map g := by
  unfold readAll mapRead
  cases read bytes with
  | error e => rfl
  | ok pair =>
    obtain ⟨a, rest⟩ := pair
    simp only
    cases endOfText rest <;> rfl

/-! ## Records as objects -/

theorem readFields_follows {field : σ → String → Reader σ} {field' : τ → String → Reader τ}
    (h : ∀ state key, field' (f state) key = mapRead f (field state key)) (turns : Nat)
    (first : Bool) (state : σ) :
    readFields field' turns first (f state) = mapRead f (readFields field turns first state) := by
  induction turns generalizing first state with
  | zero => rfl
  | succ turns ih =>
    funext bytes
    simp only [readFields, mapRead]
    cases nextKey first bytes with
    | error e => rfl
    | ok next =>
      cases next with
      | closed rest => rfl
      | more rest =>
        simp only
        cases readString rest with
        | error e => rfl
        | ok pair =>
          simp only [h, mapRead]
          cases field state pair.1 pair.2 with
          | error e => rfl
          | ok result => exact congrFun (ih false result.1) result.2

/-- A key is looked up alike, as the names are the same. -/
theorem find?_follows {fields : List (FieldReader σ)} {fields' : List (FieldReader τ)}
    (h : List.Forall₂ (FieldReader.Follows f) fields fields') (key : String) :
    (fields.find? (·.name == key) = none ∧ fields'.find? (·.name == key) = none) ∨
    ∃ field field', fields.find? (·.name == key) = some field ∧
      fields'.find? (·.name == key) = some field' ∧ field.Follows f field' := by
  induction h with
  | nil => exact .inl ⟨rfl, rfl⟩
  | @cons field field' fields fields' hfield _ ih =>
    rw [List.find?_cons, List.find?_cons, hfield.name]
    cases field.name == key with
    | true => exact .inr ⟨field, field', rfl, rfl, hfield⟩
    | false => exact ih

theorem recordField_follows {fields : List (FieldReader σ)} {fields' : List (FieldReader τ)}
    (h : List.Forall₂ (FieldReader.Follows f) fields fields') (state : σ × List String)
    (key : String) :
    recordField fields' (Prod.map f id state) key =
      mapRead (Prod.map f id) (recordField fields state key) := by
  funext bytes
  simp only [recordField, mapRead]
  rcases find?_follows h key with ⟨hnone, hnone'⟩ | ⟨field, field', hfind, hfind', hfollows⟩
  · simp only [hnone, hnone']
    cases skipColon bytes with
    | error e => rfl
    | ok rest =>
      simp only
      cases skipValue rest <;> rfl
  · simp only [hfind, hfind', Prod.map_fst, Prod.map_snd, id_eq]
    cases state.2.contains key with
    | true => rfl
    | false =>
      simp only [Bool.false_eq_true, if_false]
      cases skipColon bytes with
      | error e => rfl
      | ok rest =>
        simp only [hfollows.read, mapRead]
        cases field.read state.1 rest <;> rfl

/-! ## Records as lists -/

theorem recordItems_follows {fields : List (FieldReader σ)} {fields' : List (FieldReader τ)}
    (h : List.Forall₂ (FieldReader.Follows f) fields fields') (first : Bool) (state : σ) :
    recordItems fields' first (f state) = mapRead f (recordItems fields first state) := by
  induction h generalizing first state with
  | nil =>
    funext bytes
    simp only [recordItems, mapRead]
    cases closeRecord bytes <;> rfl
  | @cons field field' fields fields' hfield _ ih =>
    funext bytes
    simp only [recordItems, mapRead]
    cases nextItem first bytes with
    | error e => rfl
    | ok next =>
      cases next with
      | closed rest => rfl
      | more rest =>
        simp only [hfield.read, mapRead]
        cases field.read state rest with
        | error e => rfl
        | ok result => exact congrFun (ih false result.1) result.2

/-! ## The theorem -/

/-- **A record is read into the image of its state** as it is into the state, if its fields are. -/
theorem readRecord_follows {fields : List (FieldReader σ)} {fields' : List (FieldReader τ)}
    (h : List.Forall₂ (FieldReader.Follows f) fields fields') (expected : String) (start : σ) :
    readRecord expected fields' (f start) = mapRead f (readRecord expected fields start) := by
  have hobject : ∀ rest, mapRead Prod.fst (readObject (recordField fields') (f start, [])) rest =
      mapRead f (mapRead Prod.fst (readObject (recordField fields) (start, []))) rest := by
    intro rest
    have hfields := readFields_follows (recordField_follows h) (rest.length + 1) true (start, [])
    unfold mapRead readObject
    simp only [Prod.map_apply, id_eq] at hfields
    rw [hfields]
    unfold mapRead
    cases readFields (recordField fields) (rest.length + 1) true (start, []) rest <;> rfl
  funext bytes
  cases hskip : skipBlanks bytes with
  | nil => simp only [readRecord, mapRead, hskip]
  | cons b rest =>
    have hread : ∀ {ρ : Type} (fields : List (FieldReader ρ)) (start : ρ),
        readRecord expected fields start bytes =
          if b = '\x7b'.toUInt8 then
            mapRead Prod.fst (readObject (recordField fields) (start, [])) rest
          else if b = '['.toUInt8 then recordItems fields true start rest
          else .error (wrongType expected (b :: rest)) := by
      intro ρ fields start
      simp only [readRecord, hskip]
    rw [mapRead, hread, hread]
    split
    · exact hobject rest
    · split
      · exact congrFun (recordItems_follows h true start) rest
      · rfl

end Gatehouse.Json
