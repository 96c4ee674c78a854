import Gatehouse.Proofs.Check.FirstViolation
/-!
The order of a query.

A check goes through the entries of a query one by one, then to the body, and stops at what does not
pass. Its verdict needs no order: a request is accepted iff nothing there fails to pass. So a
request that is accepted stays so when its entries come in another order and when some are left
out, and

    the queries are permutations  →  both requests are accepted, or none
    rejected with `rejection` in some order  ↔
      an entry violates that, or all entries pass and the body does      (accepted_in_any_order)

What a request is told does depend on the order, if two of its entries do not pass: each of them
can come first.
-/

namespace Gatehouse

open Check (Descriptor Rejection)

namespace Check.Descriptor

/-- The requests are the same, apart from their queries. -/
structure SameButQuery (request request' : Descriptor) : Prop where
  method : request.method = request'.method
  path : request.path = request'.path
  body : request.body = request'.body

/-- The requests are the same, apart from the order of the entries in their queries. -/
structure SameButOrder (request request' : Descriptor) : Prop extends
    SameButQuery request request' where
  query : request.query.Perm request'.query

variable {request request' : Descriptor}

theorem SameButOrder.symm (h : request.SameButOrder request') : request'.SameButOrder request :=
  ⟨⟨h.method.symm, h.path.symm, h.body.symm⟩, h.query.symm⟩

end Check.Descriptor

namespace Rules

variable {table : Table} {request request' : Descriptor}

/-! ## Lemmas -/

/-- What is accepted is accepted with fewer entries. -/
theorem accepted_of_subset (h : request.SameButQuery request')
    (hentries : ∀ e ∈ request'.query, e ∈ request.query)
    (haccepted : table.check request = .accepted) : table.check request' = .accepted := by
  rw [Table.check_eq_accepted_iff] at haccepted ⊢
  intro route hroute
  rw [← h.path, ← h.method] at hroute
  obtain ⟨hquery, hbody⟩ := Route.violation?_eq_none_iff.mp (haccepted route hroute)
  apply Route.violation?_eq_none_iff.mpr
  constructor
  · intro e he
    exact hquery e (hentries e he)
  · rw [← Route.bodyViolation?_congr h.body]
    exact hbody

theorem accepted_iff_of_order (h : request.SameButOrder request') :
    table.check request = .accepted ↔ table.check request' = .accepted := by
  constructor
  · intro haccepted
    exact accepted_of_subset h.toSameButQuery (fun e he => h.query.mem_iff.mpr he) haccepted
  · intro haccepted
    exact accepted_of_subset h.symm.toSameButQuery (fun e he => h.query.mem_iff.mp he) haccepted

/-- An entry can be put in front of all others. -/
theorem exists_order_of_mem {e : String × Json} (he : e ∈ request.query) :
    ∃ request' rest, request.SameButOrder request' ∧ request'.query = e :: rest := by
  obtain ⟨front, back, hsplit⟩ := List.append_of_mem he
  have hperm : request.query.Perm (e :: (front ++ back)) := by
    rw [hsplit]
    exact List.perm_middle
  exact ⟨{ request with query := e :: (front ++ back) }, _, ⟨⟨rfl, rfl, rfl⟩, hperm⟩, rfl⟩

/-- What a request can be told, over all orders of its query. -/
theorem exists_order_rejected_iff {route : Route}
    (hroute : table.get? request.path request.method = some route) {rejection : Rejection} :
    (∃ request', request.SameButOrder request' ∧ table.check request' = .rejected rejection) ↔
      (∃ e ∈ request.query, route.entryViolation? e = some rejection) ∨
      (∀ e ∈ request.query, route.Passes e) ∧ route.bodyViolation? request = some rejection := by
  have hcheck : ∀ {request'}, request.SameButOrder request' →
      (table.check request' = .rejected rejection ↔
        route.queryViolation? request'.query = some rejection ∨
        (∀ e ∈ request'.query, route.Passes e) ∧ route.bodyViolation? request' = some rejection) := by
    intro request' h
    rw [h.path, h.method] at hroute
    rw [Table.check_of_get? hroute, Route.violation?_eq_some_iff]
  constructor
  · rintro ⟨request', h, hrejected⟩
    rcases (hcheck h).mp hrejected with hquery | ⟨hall, hbody⟩
    · obtain ⟨before, e, after, hsplit, -, hentry⟩ := Route.queryViolation?_eq_some_iff.mp hquery
      have he : e ∈ request'.query := by
        rw [hsplit]
        exact List.mem_append_right _ List.mem_cons_self
      exact .inl ⟨e, h.query.mem_iff.mpr he, hentry⟩
    · right
      rw [Route.bodyViolation?_congr h.body]
      exact ⟨fun e he => hall e (h.query.mem_iff.mp he), hbody⟩
  · rintro (⟨e, he, hentry⟩ | hbody)
    · -- the order in which this entry comes first
      obtain ⟨request', rest, h, hquery⟩ := exists_order_of_mem he
      refine ⟨request', h, (hcheck h).mpr (.inl ?_)⟩
      rw [hquery, Route.queryViolation?, List.findSome?_cons, hentry]
    · have hself : request.SameButOrder request := ⟨⟨rfl, rfl, rfl⟩, .refl _⟩
      exact ⟨request, hself, (hcheck hself).mpr (.inr hbody)⟩

/-! ## The theorem -/

/-- **The order of a query decides no verdict.** A request that is accepted stays accepted with some
of its entries only, in any order; and in two orders of a query both requests are accepted, or none.
But a request can be told each violation of its entries, in some order, so the reasons of two orders
may be different. -/
theorem accepted_in_any_order :
    (∀ (table : Table) (request request' : Descriptor), request.SameButQuery request' →
      (∀ e ∈ request'.query, e ∈ request.query) →
      table.check request = .accepted → table.check request' = .accepted) ∧
    (∀ (table : Table) (request request' : Descriptor), request.SameButOrder request' →
      (table.check request = .accepted ↔ table.check request' = .accepted)) ∧
    (∀ (table : Table) (route : Route) (request : Descriptor) (rejection : Rejection),
      table.get? request.path request.method = some route →
      ((∃ request', request.SameButOrder request' ∧ table.check request' = .rejected rejection) ↔
        (∃ e ∈ request.query, route.entryViolation? e = some rejection) ∨
        (∀ e ∈ request.query, route.Passes e) ∧ route.bodyViolation? request = some rejection)) ∧
    ∃ (table : Table) (request request' : Descriptor) (rejection rejection' : Rejection),
      request.SameButOrder request' ∧ rejection ≠ rejection' ∧
      table.check request = .rejected rejection ∧ table.check request' = .rejected rejection' := by
  refine ⟨?_, ?_, ?_, ?_⟩
  · intro table request request' h hentries haccepted
    exact accepted_of_subset h hentries haccepted
  · intro table request request' h
    exact accepted_iff_of_order h
  · intro table route request rejection hroute
    exact exists_order_rejected_iff hroute
  · let table := Table.empty.insert "/x" "get" .empty
    let request : Descriptor := ⟨"GET", "/x", "", [("a", .null), ("b", .null)], none⟩
    have hb : ∃ e ∈ request.query,
        Route.empty.entryViolation? e = some (.unknownQueryParameter "b") :=
      ⟨("b", .null), List.mem_cons_of_mem _ List.mem_cons_self, rfl⟩
    have hroute : table.get? request.path request.method = some .empty := by
      rw [Table.get?_insert]
      exact if_pos (by decide)
    obtain ⟨request', h, hrejected⟩ := (exists_order_rejected_iff hroute).mpr (.inl hb)
    have ha : table.check request = .rejected (.unknownQueryParameter "a") := by decide
    exact ⟨table, request, request', _, _, h, by decide, ha, hrejected⟩

/-- A list of pages, in an order that the query tells. -/
def pages : Table :=
  Table.empty.insert "/pages" "get" ⟨[.query "page" .integer, .query "sort" .string]⟩

/-- A request for a page of that list, with a query. -/
def pagesWith (query : List (String × Json)) : Descriptor :=
  ⟨"GET", "/pages", "", query, none⟩

/-- The second page by name is there, however the two are ordered, and without its number. Two
entries that do not pass can both be told. -/
theorem check_pages :
    pages.check (pagesWith [("sort", .string "name")]) = .accepted ∧
    pages.check (pagesWith [("sort", .string "name"), ("page", .string "2")]) = .accepted ∧
    (∃ request', (pagesWith [("page", .string "last"), ("sort", .null)]).SameButOrder request' ∧
      pages.check request' = .rejected (.invalidQueryParameterType "sort")) := by
  let request := pagesWith [("page", .string "2"), ("sort", .string "name")]
  have haccepted : pages.check request = .accepted := by decide
  refine ⟨?_, ?_, ?_⟩
  · refine accepted_in_any_order.1 pages request _ ⟨rfl, rfl, rfl⟩ ?_ haccepted
    intro e he
    exact List.mem_cons_of_mem _ he
  · have horder : request.SameButOrder
        (pagesWith [("sort", .string "name"), ("page", .string "2")]) :=
      ⟨⟨rfl, rfl, rfl⟩, .swap _ _ _⟩
    exact (accepted_in_any_order.2.1 pages _ _ horder).mp haccepted
  · refine (accepted_in_any_order.2.2.1 pages _ _ _ rfl).mpr (.inl ⟨("sort", .null), ?_, rfl⟩)
    exact List.mem_cons_of_mem _ List.mem_cons_self

end Rules

end Gatehouse
