import Gatehouse.Proofs.Check.FirstViolation
/-!
What the outcome of a check depends on.

Of a request, a check reads the whole path, the method without regard to letter case, the query and
the body; a body that is missing, one that is `null` and one that is `{}` are the same to it, on
routes with a schema for the body and on those without. Of a route it reads, for each name, the
first parameter of that name in the query, and the first body. So

    request.Alike request'  →  table.check request = table.check request'
    table.pruned.check request = table.check request                        (check_of_alike)

where `table.pruned` has lost every other parameter. `[]` and `""` are no content either, but they
are not like `{}`: a schema for the body tells them apart.
-/

namespace Gatehouse

open Check (Descriptor)

/-! ## Requests that a check does not tell apart -/

namespace Check.Descriptor

/-- The body is missing, or `null`, or an object without fields. -/
inductive NoFields : Option Json → Prop
  | missing : NoFields none
  | null : NoFields (some .null)
  | object : NoFields (some (.object []))

/-- The requests have the same whole path, wherever it is divided, the same method in any letter
case, the same query, and bodies that are the same or both without fields. -/
structure Alike (request request' : Descriptor) : Prop where
  path : request.path = request'.path
  method : Ascii.lower request.method = Ascii.lower request'.method
  query : request.query = request'.query
  body : request.body = request'.body ∨ NoFields request.body ∧ NoFields request'.body

end Check.Descriptor

namespace Rules

/-! ## Parameters that a check does not read -/

/-- The parameters are for the same part of a request: for one name in the query, or for the
body. -/
def Parameter.Rivals (p q : Parameter) : Prop :=
  p.location = .query ∧ q.location = .query ∧ p.name = q.name ∨
    p.location = .body ∧ q.location = .body

instance (p q : Parameter) : Decidable (p.Rivals q) :=
  inferInstanceAs (Decidable (_ ∨ _))

/-- The parameter is for a part that is not enforced, or for one that a parameter in front of it is
for. -/
def Parameter.IdleBehind (before : List Parameter) (p : Parameter) : Prop :=
  p.location = .other ∨ ∃ q ∈ before, q.Rivals p

instance (before : List Parameter) (p : Parameter) : Decidable (p.IdleBehind before) :=
  inferInstanceAs (Decidable (_ ∨ _))

/-- The parameters that are not idle behind `before` and those in front of them. -/
def Parameter.prune (before : List Parameter) : List Parameter → List Parameter
  | [] => []
  | p :: rest =>
    if p.IdleBehind before then prune (before ++ [p]) rest
    else p :: prune (before ++ [p]) rest

/-- The route without its idle parameters. -/
def Route.pruned (route : Route) : Route :=
  ⟨Parameter.prune [] route.parameters⟩

/-- The table without the idle parameters of its routes. -/
def Table.pruned (table : Table) : Table where
  entries := table.entries.map fun e => { e with route := e.route.pruned }
  increasing := List.pairwise_map.mpr table.increasing
  lowered := by
    intro e he
    obtain ⟨e', he', rfl⟩ := List.mem_map.mp he
    exact table.lowered e' he'

/-! ## Lemmas: pruning -/

theorem Parameter.prune_cons (before : List Parameter) (p : Parameter) (rest : List Parameter) :
    prune before (p :: rest) =
      if p.IdleBehind before then prune (before ++ [p]) rest
      else p :: prune (before ++ [p]) rest := rfl

/-- What is left stands behind parameters that are for other parts. -/
theorem Parameter.mem_prune_iff {before ps : List Parameter} {p : Parameter} :
    p ∈ prune before ps ↔
      ∃ front back, ps = front ++ p :: back ∧ ¬p.IdleBehind (before ++ front) := by
  induction ps generalizing before with
  | nil => simp [prune]
  | cons q rest ih =>
    have hrest : p ∈ prune (before ++ [q]) rest ↔
        ∃ front back, rest = front ++ p :: back ∧ ¬p.IdleBehind (before ++ q :: front) := by
      rw [ih]
      simp only [List.append_assoc, List.singleton_append]
    have hmem : p ∈ prune before (q :: rest) ↔
        p = q ∧ ¬q.IdleBehind before ∨ p ∈ prune (before ++ [q]) rest := by
      rw [prune_cons]
      by_cases hidle : q.IdleBehind before
      · simp only [hidle, if_true, not_true, and_false, false_or]
      · simp only [hidle, if_false, not_false_iff, and_true, List.mem_cons]
    rw [hmem, hrest]
    constructor
    · rintro (⟨rfl, hbusy⟩ | ⟨front, back, rfl, hbusy⟩)
      · exact ⟨[], rest, rfl, by simpa using hbusy⟩
      · exact ⟨q :: front, back, rfl, hbusy⟩
    · rintro ⟨front, back, hsplit, hbusy⟩
      cases front with
      | nil =>
        obtain ⟨rfl, rfl⟩ := List.cons.inj hsplit
        exact .inl ⟨rfl, by simpa using hbusy⟩
      | cons r front =>
        obtain ⟨rfl, rfl⟩ := List.cons.inj hsplit
        exact .inr ⟨front, back, rfl, hbusy⟩

theorem Parameter.prune_sublist (before ps : List Parameter) :
    (prune before ps).Sublist ps := by
  induction ps generalizing before with
  | nil => exact List.Sublist.refl []
  | cons p rest ih =>
    rw [prune_cons]
    split
    · exact (ih _).cons p
    · exact (ih _).cons_cons p

/-- No two of the parameters that are left are for the same part. -/
theorem Parameter.pairwise_prune (before ps : List Parameter) :
    (prune before ps).Pairwise fun p q => ¬p.Rivals q := by
  induction ps generalizing before with
  | nil => exact .nil
  | cons p rest ih =>
    rw [prune_cons]
    split
    · exact ih _
    · refine List.pairwise_cons.mpr ⟨?_, ih _⟩
      intro q hq hrivals
      obtain ⟨front, back, -, hbusy⟩ := mem_prune_iff.mp hq
      exact hbusy (.inr ⟨p, by simp, hrivals⟩)

/-- A search that takes all rivals of what it takes finds the same among the parameters that are
left. The induction is on the list, and nothing in front of it is taken. -/
theorem Parameter.find?_prune {test : Parameter → Bool}
    (henforced : ∀ p, test p = true → p.location ≠ .other)
    (hrivals : ∀ p q, q.Rivals p → test p = true → test q = true)
    {before : List Parameter} (hbefore : ∀ q ∈ before, test q = false) (ps : List Parameter) :
    (prune before ps).find? test = ps.find? test := by
  induction ps generalizing before with
  | nil => rfl
  | cons p rest ih =>
    by_cases hp : test p = true
    · -- a rival in front would have been taken before
      have hbusy : ¬p.IdleBehind before := by
        rintro (hother | ⟨q, hq, hrival⟩)
        · exact henforced p hp hother
        · have htaken := hrivals p q hrival hp
          rw [hbefore q hq] at htaken
          cases htaken
      rw [prune_cons, if_neg hbusy, List.find?_cons_of_pos hp, List.find?_cons_of_pos hp]
    · have hbefore' : ∀ q ∈ before ++ [p], test q = false := by
        intro q hq
        rcases List.mem_append.mp hq with hq | hq
        · exact hbefore q hq
        · obtain rfl := List.mem_singleton.mp hq
          exact eq_false_of_ne_true hp
      rw [prune_cons]
      split
      · rw [ih hbefore', List.find?_cons_of_neg hp]
      · rw [List.find?_cons_of_neg hp, ih hbefore', List.find?_cons_of_neg hp]

theorem Parameter.rivals_self_iff {p : Parameter} : p.Rivals p ↔ p.location ≠ .other := by
  unfold Rivals
  cases p.location <;> simp

/-- What is left of a route is the first parameter for each part that is enforced. -/
theorem Route.mem_pruned_iff {route : Route} {p : Parameter} :
    p ∈ route.pruned.parameters ↔ route.First (fun q => q.Rivals p) p := by
  have hbusy : ∀ front : List Parameter, ¬p.IdleBehind front ↔
      p.Rivals p ∧ ∀ q ∈ front, ¬q.Rivals p := by
    intro front
    unfold Parameter.IdleBehind
    rw [Parameter.rivals_self_iff, not_or]
    simp only [not_exists, not_and, ne_eq]
  unfold Route.pruned Route.First
  simp only [Parameter.mem_prune_iff, List.nil_append, hbusy]

/-! ## Lemmas: routes and tables -/

theorem Route.query?_pruned (route : Route) (name : String) :
    route.pruned.query? name = route.query? name := by
  rw [Route.query?_eq_find?, Route.query?_eq_find?]
  refine Parameter.find?_prune ?_ ?_ (fun _ hq => absurd hq List.not_mem_nil) _
  · intro p hp hother
    rw [hother] at hp
    simp at hp
  · intro p q hrivals hp
    obtain ⟨hlocation, hname⟩ := of_decide_eq_true hp
    rcases hrivals with ⟨hquery, -, heq⟩ | ⟨-, hbody⟩
    · exact decide_eq_true ⟨hquery, heq.trans hname⟩
    · rw [hlocation] at hbody
      cases hbody

theorem Route.bodySchema_pruned (route : Route) :
    route.pruned.bodySchema = route.bodySchema := by
  have hfind : route.pruned.parameters.find? (·.location = .body) =
      route.parameters.find? (·.location = .body) := by
    refine Parameter.find?_prune ?_ ?_ (fun _ hq => absurd hq List.not_mem_nil) _
    · intro p hp hother
      rw [hother] at hp
      simp at hp
    · intro p q hrivals hp
      rcases hrivals with ⟨-, hquery, -⟩ | ⟨hbody, -⟩
      · rw [hquery] at hp
        simp at hp
      · exact decide_eq_true hbody
  unfold Route.bodySchema
  rw [hfind]

theorem Route.violation?_pruned (route : Route) (request : Descriptor) :
    route.pruned.violation? request = route.violation? request := by
  have hentry : route.pruned.entryViolation? = route.entryViolation? := by
    funext entry
    unfold Route.entryViolation?
    rw [route.query?_pruned]
  unfold Route.violation? Route.queryViolation? Route.bodyViolation?
  rw [hentry, route.bodySchema_pruned]

theorem Table.get?_pruned (table : Table) (path method : String) :
    table.pruned.get? path method = (table.get? path method).map Route.pruned := by
  unfold Table.get? Table.pruned
  rw [List.find?_map, Option.map_map, Option.map_map]
  rfl

theorem check_pruned (table : Table) (request : Descriptor) :
    table.pruned.check request = table.check request := by
  unfold Table.check
  rw [Table.get?_pruned]
  cases table.get? request.path request.method with
  | none => rfl
  | some route => simp only [Option.map_some, Route.violation?_pruned]

/-! ## Lemmas: requests -/

/-- Bodies without fields are all blank, and a schema judges all of them as `{}`. -/
theorem bodyViolation?_of_noFields {request : Descriptor} (h : Descriptor.NoFields request.body)
    (route : Route) :
    route.bodyViolation? request =
      match route.bodySchema with
      | none => none
      | some schema => if schema.accepts (.object []) then none else some .invalidBody := by
  unfold Route.bodyViolation? Descriptor.hasBlankBody Descriptor.effectiveBody
  generalize request.body = body at h
  cases h <;> rfl

theorem violation?_of_alike {request request' : Descriptor} (h : request.Alike request')
    (route : Route) : route.violation? request = route.violation? request' := by
  have hbody : route.bodyViolation? request = route.bodyViolation? request' := by
    rcases h.body with heq | ⟨hno, hno'⟩
    · exact Route.bodyViolation?_congr heq
    · rw [bodyViolation?_of_noFields hno, bodyViolation?_of_noFields hno']
  unfold Route.violation?
  rw [h.query, hbody]

theorem check_eq_of_alike {request request' : Descriptor} (h : request.Alike request')
    (table : Table) : table.check request = table.check request' := by
  have hget : table.get? request.path request.method =
      table.get? request'.path request'.method := by
    unfold Table.get?
    rw [h.path, h.method]
  unfold Table.check
  rw [hget]
  cases table.get? request'.path request'.method with
  | none => rfl
  | some route => simp only [violation?_of_alike h]

/-! ## The theorem -/

/-- **What an outcome depends on.** Requests that are alike have the same outcome under every table.
A table and the pruned one have the same outcome for every request. Pruning keeps all routes; of
each it keeps, in their order, the first parameter of each name in the query and the first body, and
nothing else. -/
theorem check_of_alike :
    (∀ (table : Table) (request request' : Descriptor), request.Alike request' →
      table.check request = table.check request') ∧
    (∀ (table : Table) (request : Descriptor),
      table.pruned.check request = table.check request) ∧
    (∀ (table : Table) (path method : String),
      table.pruned.get? path method = (table.get? path method).map Route.pruned) ∧
    ∀ route : Route,
      route.pruned.parameters.Sublist route.parameters ∧
      (route.pruned.parameters.Pairwise fun p q => ¬p.Rivals q) ∧
      ∀ p, p ∈ route.pruned.parameters ↔ route.First (fun q => q.Rivals p) p := by
  refine ⟨?_, check_pruned, Table.get?_pruned, ?_⟩
  · intro table request request' h
    exact check_eq_of_alike h table
  · intro route
    refine ⟨Parameter.prune_sublist [] _, Parameter.pairwise_prune [] _, ?_⟩
    intro p
    exact Route.mem_pruned_iff

/-- The rules of a booking, with two that come too late and one that is not enforced. -/
def booking : Route :=
  ⟨[⟨"X-Trace", .other, some .string⟩, .query "day" .integer, .body (.object [] [("note", .string)]),
    .query "day" .string, ⟨"", .body, none⟩]⟩

/-- A booking without a note, under a path that is divided, is accepted as the one with `{}` is. -/
theorem check_booking :
    let table := Table.empty.insert "/api/booking" "Post" booking
    let day : List (String × Json) := [("day", .string "24")]
    table.check ⟨"POST", "/api", "/booking", day, none⟩ = .accepted ∧
      table.pruned.check ⟨"POST", "/api", "/booking", day, none⟩ = .accepted := by
  intro table day
  have haccepted : table.check ⟨"post", "", "/api/booking", day, some (.object [])⟩ = .accepted := by
    decide
  have halike : Descriptor.Alike ⟨"POST", "/api", "/booking", day, none⟩
      ⟨"post", "", "/api/booking", day, some (.object [])⟩ :=
    ⟨by decide, by decide, rfl, .inr ⟨.missing, .object⟩⟩
  have hsame := check_of_alike.1 table _ _ halike
  rw [check_of_alike.2.1 table, hsame]
  exact ⟨haccepted, haccepted⟩

/-- What counts of the rules of a booking. -/
example : booking.pruned.parameters.map Parameter.name = ["day", ""] := by decide

end Rules

end Gatehouse
