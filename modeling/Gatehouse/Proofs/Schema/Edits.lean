import Gatehouse.Proofs.Schema.Positions
/-!
A value that is changed at one place.

A path leads to a value inside a value, and to a schema inside a schema. If the whole was accepted,
another value may be set at the end of the path, and only that value and the schema for it decide:

    schema.accepts value  →  value.at? path = some inner  →  schema.at? path = some sub  →
      schema.accepts (value.setAt path new) = sub.accepts new                (accepts_setAt)

One step of it is `accepts_setStep`: the names of an object and the length of an array stay as they
are, so a schema asks for nothing else than before.
-/

namespace Gatehouse

/-! ## Setting a value inside a value -/

/-- Sets the value one step inside: an item of an array in its place, or a field of an object under
its name. -/
def Json.setStep : Json → Step → Json → Json
  | .array items, .item index, new => .array (items.set index new)
  | .object fields, .field name, new => .object (Fields.put fields name new)
  | value, _, _ => value

/-- Sets the value at the end of a path. A path that leads to no value changes nothing. -/
def Json.setAt : Json → List Step → Json → Json
  | _, [], new => new
  | value, step :: path, new =>
    match value.step? step with
    | none => value
    | some inner => value.setStep step (inner.setAt path new)

/-! ## Lemmas: what is inside afterwards -/

namespace Json

variable {value inner : Json} {step : Step}

/-- A step leads to an item of an array, or to a field of an object. -/
theorem step?_cases (h : value.step? step = some inner) :
    (∃ items index, value = .array items ∧ step = .item index ∧ items[index]? = some inner) ∨
    ∃ fields name, value = .object fields ∧ step = .field name ∧
      Fields.get? fields name = some inner := by
  cases value with
  | null => cases h
  | bool b => cases h
  | number n => cases h
  | string s => cases h
  | array items =>
    cases step with
    | item index => exact .inl ⟨items, index, rfl, rfl, h⟩
    | field name => cases h
  | object fields =>
    cases step with
    | item index => cases h
    | field name => exact .inr ⟨fields, name, rfl, rfl, h⟩

/-- One step inside, the new value is found under the step, and all else is where it was. -/
theorem step?_setStep (h : value.step? step = some inner) (new : Json) (other : Step) :
    (value.setStep step new).step? other =
      if step = other then some new else value.step? other := by
  rcases step?_cases h with ⟨items, index, rfl, rfl, hitem⟩ | ⟨fields, name, rfl, rfl, -⟩
  · have hlt : index < items.length := (List.getElem?_eq_some_iff.mp hitem).1
    cases other with
    | field name => rfl
    | item index' =>
      show (items.set index new)[index']? = _
      rw [List.getElem?_set]
      by_cases heq : index = index'
      · subst heq
        rw [if_pos rfl, if_pos hlt, if_pos rfl]
      · have hne : Step.item index ≠ .item index' := fun hstep => heq (Step.item.inj hstep)
        rw [if_neg heq, if_neg hne]
        rfl
  · cases other with
    | item index => rfl
    | field name' =>
      show Fields.get? (Fields.put fields name new) name' = _
      rw [Fields.get?_put]
      simp only [Step.field.injEq]
      rfl

theorem setAt_cons (h : value.step? step = some inner) (path : List Step) (new : Json) :
    value.setAt (step :: path) new = value.setStep step (inner.setAt path new) := by
  simp only [setAt, h]

theorem step?_of_at?_cons {path : List Step} {last : Json}
    (h : value.at? (step :: path) = some last) :
    ∃ inner, value.step? step = some inner ∧ inner.at? path = some last := by
  cases hstep : value.step? step with
  | none => simp [at?, hstep] at h
  | some inner =>
    rw [Schema.at?_cons hstep] at h
    exact ⟨inner, rfl, h⟩

/-- The new value is at the end of the path. -/
theorem at?_setAt {path : List Step} {old : Json} (h : value.at? path = some old) (new : Json) :
    (value.setAt path new).at? path = some new := by
  induction path generalizing value with
  | nil => rfl
  | cons step path ih =>
    obtain ⟨inner, hstep, hinner⟩ := step?_of_at?_cons h
    have hnext : (value.setStep step (inner.setAt path new)).step? step =
        some (inner.setAt path new) := by
      rw [step?_setStep hstep, if_pos rfl]
    rw [setAt_cons hstep, Schema.at?_cons hnext]
    exact ih hinner

/-- Where two paths part, what is set at the end of one cannot be seen at the end of the other. -/
theorem at?_setAt_of_apart {path other : List Step} {old : Json} (h : value.at? path = some old)
    (hpath : ¬path <+: other) (hother : ¬other <+: path) (new : Json) :
    (value.setAt path new).at? other = value.at? other := by
  induction path generalizing value other with
  | nil => exact absurd List.nil_prefix hpath
  | cons step path ih =>
    obtain ⟨inner, hstep, hinner⟩ := step?_of_at?_cons h
    rw [setAt_cons hstep]
    cases other with
    | nil => exact absurd List.nil_prefix hother
    | cons step' other =>
      have hnext := step?_setStep hstep (inner.setAt path new) step'
      by_cases heq : step = step'
      · subst heq
        rw [if_pos rfl] at hnext
        rw [Schema.at?_cons hnext, Schema.at?_cons hstep]
        apply ih hinner
        · intro hprefix
          exact hpath (List.cons_prefix_cons.mpr ⟨rfl, hprefix⟩)
        · intro hprefix
          exact hother (List.cons_prefix_cons.mpr ⟨rfl, hprefix⟩)
      · rw [if_neg heq] at hnext
        simp only [at?, hnext]

end Json

/-! ## Lemmas: acceptance -/

namespace Schema

variable {schema sub : Schema} {value inner : Json} {step : Step}

/-- What a schema asks of a value alone is asked of its kind, and of the names of its fields. -/
theorem fits_setStep (h : value.step? step = some inner) (new : Json) :
    schema.Fits (value.setStep step new) ↔ schema.Fits value := by
  rcases Json.step?_cases h with ⟨items, index, rfl, rfl, -⟩ | ⟨fields, name, rfl, rfl, hfield⟩
  · cases schema <;> simp [Json.setStep, Fits, Json.isIntegerLike]
  · have hnames : Fields.names (Fields.put fields name new) = Fields.names fields :=
      Fields.names_put_of_mem (Fields.mem_names_iff.mpr ⟨inner, hfield⟩) new
    cases schema <;> simp [Json.setStep, Fits, Json.isIntegerLike, hnames]

/-- **One step.** In a value that is accepted, the value one step inside may be changed to one that
is accepted there, and to no other. -/
theorem accepts_setStep (h : schema.WellFormed) (haccepts : schema.accepts value = true)
    (hstep : value.step? step = some inner) (hsub : schema.step? step = some sub) (new : Json) :
    schema.accepts (value.setStep step new) = sub.accepts new := by
  obtain ⟨hfits, hsteps⟩ := (accepts_iff_forall_step h value).mp haccepts
  rw [Bool.eq_iff_iff, accepts_iff_forall_step h, fits_setStep hstep]
  constructor
  · rintro ⟨-, hall⟩
    have hnew : (value.setStep step new).step? step = some new := by
      rw [Json.step?_setStep hstep, if_pos rfl]
    obtain ⟨sub', hsub', hnewaccepts⟩ := hall step new hnew
    obtain rfl := Option.some.inj (hsub.symm.trans hsub')
    exact hnewaccepts
  · intro hnew
    refine ⟨hfits, fun other inner' hinner' => ?_⟩
    rw [Json.step?_setStep hstep] at hinner'
    by_cases heq : step = other
    · rw [if_pos heq] at hinner'
      obtain rfl := Option.some.inj hinner'
      exact ⟨sub, heq ▸ hsub, hnew⟩
    · -- what is not changed was accepted before
      rw [if_neg heq] at hinner'
      exact hsteps other inner' hinner'

/-- The schema at the end of a path decides about the value at its end. The induction is on the
path; each step on it leads into a value that is accepted. -/
theorem exists_accepts_setAt (h : schema.WellFormed) (haccepts : schema.accepts value = true)
    {path : List Step} {old : Json} (hold : value.at? path = some old) :
    ∃ sub, schema.at? path = some sub ∧
      ∀ new, schema.accepts (value.setAt path new) = sub.accepts new := by
  induction path generalizing schema value with
  | nil => exact ⟨schema, rfl, fun new => rfl⟩
  | cons step path ih =>
    obtain ⟨inner, hstep, hinner⟩ := Json.step?_of_at?_cons hold
    have hsteps := ((accepts_iff_forall_step h value).mp haccepts).2
    obtain ⟨next, hnext, hinneraccepts⟩ := hsteps step inner hstep
    obtain ⟨sub, hsub, hall⟩ := ih (h.step? hnext) hinneraccepts hinner
    refine ⟨sub, (schema_at?_cons hnext path).trans hsub, fun new => ?_⟩
    calc schema.accepts (value.setAt (step :: path) new)
        = schema.accepts (value.setStep step (inner.setAt path new)) := by
          rw [Json.setAt_cons hstep]
      _ = next.accepts (inner.setAt path new) := accepts_setStep h haccepts hstep hnext _
      _ = sub.accepts new := hall new

/-! ## The theorem -/

/-- **Only the place that is changed decides.** Each path into an accepted value leads to a schema.
If another value is set at its end, that value is there, all that is not on the path is as before,
and the whole is accepted iff this schema accepts the new value. -/
theorem accepts_setAt (schema : Schema) (h : schema.WellFormed) (value : Json)
    (haccepts : schema.accepts value = true) (path : List Step) (old : Json)
    (hold : value.at? path = some old) :
    ∃ sub, schema.at? path = some sub ∧ ∀ new,
      (value.setAt path new).at? path = some new ∧
      (∀ other, ¬path <+: other → ¬other <+: path →
        (value.setAt path new).at? other = value.at? other) ∧
      schema.accepts (value.setAt path new) = sub.accepts new := by
  obtain ⟨sub, hsub, hall⟩ := exists_accepts_setAt h haccepts hold
  refine ⟨sub, hsub, fun new => ⟨Json.at?_setAt hold new, ?_, hall new⟩⟩
  intro other hpath hother
  exact Json.at?_setAt_of_apart hold hpath hother new

/-- A record with lists of tags. -/
def tagged : Schema :=
  .object ["id"] [("id", .integer), ("tags", .array (.array .string))]

/-- A tag in the second list may become any string, and nothing else. -/
theorem accepts_setAt_tag :
    let value := Json.object [("tags", .array [.array [], .array [.string "a", .string "b"]]),
      ("id", .string " -7 ")]
    let path := [Step.field "tags", .item 1, .item 0]
    tagged.WellFormed ∧ tagged.accepts value = true ∧ value.at? path = some (.string "a") ∧
      ∀ new, tagged.accepts (value.setAt path new) = new.isString := by
  intro value path
  have hformed : tagged.WellFormed := by decide
  have haccepts : tagged.accepts value = true := by decide
  have htag : value.at? path = some (.string "a") := rfl
  obtain ⟨sub, hsub, hall⟩ := accepts_setAt tagged hformed value haccepts path _ htag
  obtain rfl : Schema.string = sub := Option.some.inj hsub
  exact ⟨hformed, haccepts, htag, fun new => (hall new).2.2⟩

end Schema

end Gatehouse
