/-!
Named fields: lists of pairs of a name and a value.

A list of fields is read by the first pair of a name. Two ways to add a field keep each name at
one place: `put` keeps the order in which names came first, and `putSorted` keeps names in
increasing order. Main statements: `get?_put` and `get?_putSorted` say what is read after an
addition, `pairwise_putSorted` that sorted fields stay sorted, `get?_eq_some_iff_mem_of_nodup` that
fields with distinct names are read by membership, so that their order does not matter
(`get?_of_perm`), and `Sorted.ext_get?` that sorted fields are what is read from them.
-/

namespace Gatehouse.Fields

variable {α : Type}

/-! ## Reading -/

/-- The value under a name. -/
def get? (fields : List (String × α)) (name : String) : Option α :=
  match fields with
  | [] => none
  | (k, v) :: rest => if k = name then some v else get? rest name

/-- The names, in order. -/
def names (fields : List (String × α)) : List String :=
  fields.map Prod.fst

/-- Some field has the name. -/
def has (fields : List (String × α)) (name : String) : Bool :=
  (get? fields name).isSome

/-- Every one of `required` is the name of a field. -/
def hasAll (required : List String) (fields : List (String × α)) : Bool :=
  required.all (has fields)

/-- Some field has a name that is not `declared`. -/
def hasUndeclared {β : Type} (declared : List (String × β)) (fields : List (String × α)) :
    Bool :=
  (names fields).any fun name => !has declared name

/-! ## Adding -/

/-- Sets a field: in its place if the name is there, else at the end. -/
def put (fields : List (String × α)) (name : String) (value : α) : List (String × α) :=
  match fields with
  | [] => [(name, value)]
  | (k, v) :: rest => if k = name then (k, value) :: rest else (k, v) :: put rest name value

/-- Sets a field among fields in increasing order of their names. -/
def putSorted (fields : List (String × α)) (name : String) (value : α) : List (String × α) :=
  match fields with
  | [] => [(name, value)]
  | (k, v) :: rest =>
    if k = name then (name, value) :: rest
    else if name < k then (name, value) :: (k, v) :: rest
    else (k, v) :: putSorted rest name value

/-- Names in strictly increasing order, so that no name occurs twice. -/
def Sorted (fields : List (String × α)) : Prop :=
  (names fields).Pairwise (· < ·)

instance (fields : List (String × α)) : Decidable (Sorted fields) :=
  inferInstanceAs (Decidable (List.Pairwise _ _))

/-! ## Lemmas -/

@[simp] theorem get?_nil (name : String) : get? ([] : List (String × α)) name = none := rfl

theorem mem_of_get? {fields : List (String × α)} {name : String} {value : α}
    (h : get? fields name = some value) : (name, value) ∈ fields := by
  induction fields with
  | nil => cases h
  | cons p rest ih =>
    obtain ⟨k, v⟩ := p
    unfold get? at h
    split at h
    · next hk =>
      obtain rfl := Option.some.inj h
      rw [hk]
      exact List.mem_cons_self
    · exact List.mem_cons_of_mem _ (ih h)

theorem mem_names_iff {fields : List (String × α)} {name : String} :
    name ∈ names fields ↔ ∃ value, get? fields name = some value := by
  constructor
  · intro h
    induction fields with
    | nil => cases h
    | cons p rest ih =>
      obtain ⟨k, v⟩ := p
      unfold get?
      by_cases hk : k = name
      · exact ⟨v, by rw [if_pos hk]⟩
      · rw [if_neg hk]
        rcases List.mem_cons.mp h with hname | hrest
        · exact absurd hname.symm hk
        · exact ih hrest
  · rintro ⟨value, h⟩
    exact List.mem_map.mpr ⟨(name, value), mem_of_get? h, rfl⟩

theorem get?_eq_none_iff {fields : List (String × α)} {name : String} :
    get? fields name = none ↔ name ∉ names fields := by
  rw [mem_names_iff]
  cases get? fields name <;> simp

theorem has_iff {fields : List (String × α)} {name : String} :
    has fields name = true ↔ name ∈ names fields := by
  rw [mem_names_iff]
  unfold has
  rw [Option.isSome_iff_exists]

theorem hasAll_iff {required : List String} {fields : List (String × α)} :
    hasAll required fields = true ↔ ∀ name ∈ required, name ∈ names fields := by
  unfold hasAll
  simp only [List.all_eq_true, has_iff]

theorem hasUndeclared_eq_false_iff {β : Type} {declared : List (String × β)}
    {fields : List (String × α)} :
    hasUndeclared declared fields = false ↔ ∀ name ∈ names fields, name ∈ names declared := by
  unfold hasUndeclared
  rw [List.any_eq_false]
  constructor
  · intro h name hname
    have hnot := h name hname
    rw [Bool.not_eq_true, Bool.not_eq_false'] at hnot
    exact has_iff.mp hnot
  · intro h name hname
    rw [Bool.not_eq_true, Bool.not_eq_false']
    exact has_iff.mpr (h name hname)

/-- Of two lists of fields the first one is read first. -/
theorem get?_append (fields fields' : List (String × α)) (name : String) :
    get? (fields ++ fields') name = (get? fields name).or (get? fields' name) := by
  induction fields with
  | nil => rfl
  | cons p rest ih =>
    obtain ⟨k, v⟩ := p
    by_cases hk : k = name <;> simp [get?, hk, ih]

theorem get?_put (fields : List (String × α)) (name other : String) (value : α) :
    get? (put fields name value) other =
      if name = other then some value else get? fields other := by
  induction fields with
  | nil => simp [put, get?]
  | cons p rest ih =>
    obtain ⟨k, v⟩ := p
    by_cases hk : k = name
    · subst hk
      by_cases ho : k = other <;> simp [put, get?, ho]
    · by_cases ho : name = other
      · subst ho
        simp [put, get?, hk, ih]
      · simp [put, get?, hk, ih, ho]

/-- A new name comes last. -/
theorem put_of_not_mem {fields : List (String × α)} {name : String} (h : name ∉ names fields)
    (value : α) : put fields name value = fields ++ [(name, value)] := by
  induction fields with
  | nil => rfl
  | cons p rest ih =>
    obtain ⟨k, v⟩ := p
    have hk : k ≠ name := fun heq => h (heq ▸ List.mem_cons_self)
    have hrest : name ∉ names rest := fun hmem => h (List.mem_cons_of_mem _ hmem)
    unfold put
    rw [if_neg hk, ih hrest]
    rfl

/-- A name that is there keeps its place. -/
theorem names_put_of_mem {fields : List (String × α)} {name : String} (h : name ∈ names fields)
    (value : α) : names (put fields name value) = names fields := by
  induction fields with
  | nil => cases h
  | cons p rest ih =>
    obtain ⟨k, v⟩ := p
    unfold put
    by_cases hk : k = name
    · rw [if_pos hk]
      rfl
    · have hrest : name ∈ names rest := by
        rcases List.mem_cons.mp h with hname | hrest
        · exact absurd hname.symm hk
        · exact hrest
      rw [if_neg hk]
      show k :: names (put rest name value) = k :: names rest
      rw [ih hrest]

theorem get?_map_of_mem {ns : List String} (f : String → α) {name : String} (h : name ∈ ns) :
    get? (ns.map fun n => (n, f n)) name = some (f name) := by
  induction ns with
  | nil => cases h
  | cons n rest ih =>
    simp only [List.map_cons, get?]
    split
    · next hn => rw [hn]
    · next hn =>
      rcases List.mem_cons.mp h with hname | hrest
      · exact absurd hname.symm hn
      · exact ih hrest

/-- Setting a name that is there changes its value alone. -/
theorem put_map_of_mem {ns : List String} (hns : ns.Nodup) (f : String → α) {name : String}
    (h : name ∈ ns) (value : α) :
    put (ns.map fun n => (n, f n)) name value =
      ns.map fun n => (n, if n = name then value else f n) := by
  induction ns with
  | nil => cases h
  | cons n rest ih =>
    obtain ⟨hn, hrest⟩ := List.nodup_cons.mp hns
    simp only [List.map_cons, put]
    by_cases hname : n = name
    · subst hname
      simp only [if_true]
      congr 1
      refine List.map_congr_left fun m hm => ?_
      have hmn : m ≠ n := fun heq => hn (heq ▸ hm)
      rw [if_neg hmn]
    · rcases List.mem_cons.mp h with heq | hmem
      · exact absurd heq.symm hname
      · rw [if_neg hname, if_neg hname, ih hrest hmem]

theorem get?_putSorted (fields : List (String × α)) (name other : String) (value : α) :
    get? (putSorted fields name value) other =
      if name = other then some value else get? fields other := by
  induction fields with
  | nil => simp [putSorted, get?]
  | cons p rest ih =>
    obtain ⟨k, v⟩ := p
    by_cases hk : k = name
    · subst hk
      by_cases ho : k = other <;> simp [putSorted, get?, ho]
    · by_cases hlt : name < k
      · simp [putSorted, get?, hk, hlt]
      · by_cases ho : name = other
        · subst ho
          simp [putSorted, get?, hk, hlt, ih]
        · simp [putSorted, get?, hk, hlt, ih, ho]

theorem mem_names_putSorted {fields : List (String × α)} {name other : String} {value : α} :
    other ∈ names (putSorted fields name value) ↔ other = name ∨ other ∈ names fields := by
  induction fields with
  | nil => simp [putSorted, names]
  | cons p rest ih =>
    obtain ⟨k, v⟩ := p
    simp only [names] at ih ⊢
    by_cases hk : k = name
    · subst hk
      simp [putSorted]
    · by_cases hlt : name < k
      · simp [putSorted, hk, hlt]
      · simp only [putSorted, hk, hlt, if_false, List.map_cons, List.mem_cons, ih]
        constructor
        · rintro (h | h | h) <;> simp [h]
        · rintro (h | h | h) <;> simp [h]

theorem pairwise_putSorted {fields : List (String × α)} (h : Sorted fields) (name : String)
    (value : α) : Sorted (putSorted fields name value) := by
  unfold Sorted at h ⊢
  induction fields with
  | nil => simp [putSorted, names]
  | cons p rest ih =>
    obtain ⟨k, v⟩ := p
    have hrest : (names rest).Pairwise (· < ·) := (List.pairwise_cons.mp h).2
    have hk : ∀ x ∈ names rest, k < x := (List.pairwise_cons.mp h).1
    by_cases he : k = name
    · subst he
      simpa [putSorted, names] using h
    · by_cases hlt : name < k
      · simp only [putSorted, he, hlt, if_true, if_false]
        refine List.pairwise_cons.mpr ⟨?_, h⟩
        intro x hx
        rcases List.mem_cons.mp hx with rfl | hx
        · exact hlt
        · exact String.lt_trans hlt (hk x hx)
      · simp only [putSorted, he, hlt, if_false]
        refine List.pairwise_cons.mpr ⟨?_, ih hrest⟩
        intro x hx
        rcases mem_names_putSorted.mp hx with rfl | hx
        · exact Std.lt_of_le_of_ne (String.not_lt.mp hlt) he
        · exact hk x hx

/-- A name behind all others comes last. -/
theorem putSorted_of_forall_lt {fields : List (String × α)} {name : String}
    (h : ∀ other ∈ names fields, other < name) (value : α) :
    putSorted fields name value = fields ++ [(name, value)] := by
  induction fields with
  | nil => rfl
  | cons p rest ih =>
    obtain ⟨k, v⟩ := p
    have hk : k < name := h k List.mem_cons_self
    have hne : k ≠ name := by
      rintro rfl
      exact String.lt_irrefl k hk
    have hnot : ¬name < k := fun hlt => String.lt_irrefl k (String.lt_trans hk hlt)
    have hrest := ih fun other hother => h other (List.mem_cons_of_mem _ hother)
    unfold putSorted
    rw [if_neg hne, if_neg hnot, hrest]
    rfl

/-- Fields with distinct names have one value for each name. -/
theorem get?_eq_some_iff_mem_of_nodup {fields : List (String × α)} (h : (names fields).Nodup)
    {name : String} {value : α} : get? fields name = some value ↔ (name, value) ∈ fields := by
  refine ⟨mem_of_get?, fun hmem => ?_⟩
  induction fields with
  | nil => cases hmem
  | cons p rest ih =>
    obtain ⟨k, v⟩ := p
    obtain ⟨hk, hrest⟩ := List.nodup_cons.mp h
    unfold get?
    rcases List.mem_cons.mp hmem with heq | hmem
    · obtain ⟨rfl, rfl⟩ := Prod.mk.inj heq
      rw [if_pos rfl]
    · have hne : k ≠ name := by
        rintro rfl
        exact hk (List.mem_map.mpr ⟨(k, value), hmem, rfl⟩)
      rw [if_neg hne]
      exact ih hrest hmem

theorem Sorted.nodup {fields : List (String × α)} (h : Sorted fields) : (names fields).Nodup := by
  refine List.Pairwise.imp (fun hlt heq => ?_) h
  rw [heq] at hlt
  exact String.lt_irrefl _ hlt

/-- Sorted fields have one value for each name. -/
theorem get?_eq_some_iff_mem {fields : List (String × α)} (h : Sorted fields) {name : String}
    {value : α} : get? fields name = some value ↔ (name, value) ∈ fields :=
  get?_eq_some_iff_mem_of_nodup h.nodup

/-- The order of fields with distinct names does not matter. -/
theorem get?_of_perm {fields fields' : List (String × α)} (h : (names fields).Nodup)
    (hperm : fields.Perm fields') (name : String) : get? fields name = get? fields' name := by
  have h' : (names fields').Nodup := (hperm.map Prod.fst).nodup_iff.mp h
  refine Option.ext fun value => ?_
  rw [get?_eq_some_iff_mem_of_nodup h, get?_eq_some_iff_mem_of_nodup h', hperm.mem_iff]

/-- Sorted fields are known by what is read from them. -/
theorem Sorted.ext_get? {fields fields' : List (String × α)} (h : Sorted fields)
    (h' : Sorted fields') (hget : ∀ name, get? fields name = get? fields' name) :
    fields = fields' := by
  have hbefore : ∀ {fields : List (String × α)}, Sorted fields →
      fields.Pairwise fun p q => p.1 < q.1 := fun h => List.pairwise_map.mp h
  have hnodup : ∀ {fields : List (String × α)}, Sorted fields → fields.Nodup := fun h =>
    List.Pairwise.of_map Prod.fst (fun _ _ hne heq => hne (heq ▸ rfl)) h.nodup
  have hmem : ∀ p, p ∈ fields ↔ p ∈ fields' := by
    rintro ⟨name, value⟩
    rw [← get?_eq_some_iff_mem h, ← get?_eq_some_iff_mem h', hget]
  have hperm : fields.Perm fields' :=
    (List.perm_ext_iff_of_nodup (hnodup h) (hnodup h')).mpr hmem
  exact hperm.eq_of_pairwise
    (fun p q _ _ hpq hqp => absurd (String.lt_trans hpq hqp) (String.lt_irrefl _))
    (hbefore h) (hbefore h')

end Gatehouse.Fields
