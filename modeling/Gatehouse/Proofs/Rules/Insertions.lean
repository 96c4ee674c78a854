import Gatehouse.Check.Violation
import Gatehouse.Proofs.Lists.Last
import Gatehouse.Proofs.Text.Encoding
import Mathlib.Data.List.Dedup
import Mathlib.Data.List.Induction
/-!
Tables that are built by insertions.

A table keeps what the last insertion for a path and method says, in any letter case, and nothing
else; the order of insertions for different places leaves no trace.

    (empty.insertAll calls).get? path method = some route
      ↔  the last of the calls for path and method has the route     (get?_insertAll_eq_some_iff)
    e ∈ table.entries  ↔  lower e.method = e.method ∧
      table.get? e.path e.method = some e.route                      (Table.mem_entries_iff)

So a table is known by what is read from it (`Table.ext_get?`), and one more insertion changes the
check of the requests for its own place alone (`Table.check_insert`).
-/

namespace Gatehouse.Rules

open Check (Descriptor)

/-! ## Runs of insertions -/

/-- The entry is for the path, and for the method in any letter case. -/
def Entry.IsFor (path method : String) (e : Entry) : Prop :=
  e.path = path ∧ Ascii.lower e.method = Ascii.lower method

instance (path method : String) : DecidablePred (Entry.IsFor path method) :=
  fun _ => inferInstanceAs (Decidable (_ ∧ _))

/-- The path of an entry, and its method in lower case. -/
def Entry.place (e : Entry) : String × String :=
  (e.path, Ascii.lower e.method)

/-- Bytes of the path, then of the method, come before those of the other entry. -/
def Entry.BytesBefore (a b : Entry) : Prop :=
  Utf8.encode a.path < Utf8.encode b.path ∨
    Utf8.encode a.path = Utf8.encode b.path ∧ Utf8.encode a.method < Utf8.encode b.method

/-- Sets the rules of entries, the methods of which may be in any letter case, one after the
other. -/
def Table.insertAll (table : Table) (calls : List Entry) : Table :=
  calls.foldl (fun table call => table.insert call.path call.method call.route) table

/-! ## Lemmas: a whole run -/

theorem Table.insertAll_concat (table : Table) (calls : List Entry) (call : Entry) :
    table.insertAll (calls ++ [call]) =
      (table.insertAll calls).insert call.path call.method call.route := by
  unfold insertAll
  rw [List.foldl_append]
  rfl

/-- What is read behind an insertion, in terms of its entry. -/
theorem Table.get?_insert_entry (table : Table) (call : Entry) (path method : String) :
    (table.insert call.path call.method call.route).get? path method =
      if call.IsFor path method then some call.route else table.get? path method :=
  table.get?_insert call.path call.method path method call.route

/-- A table that is built up keeps the last rules for each path and method. -/
theorem get?_insertAll_eq_some_iff {calls : List Entry} {path method : String} {route : Route} :
    (Table.empty.insertAll calls).get? path method = some route ↔
      ∃ call, IsLast (Entry.IsFor path method) calls call ∧ call.route = route := by
  -- from the end: the last call decides, or the calls before it do
  induction calls using List.reverseRecOn with
  | nil =>
    refine iff_of_false (fun h => nomatch h) ?_
    rintro ⟨call, hlast, -⟩
    exact not_isLast_nil hlast
  | append_singleton calls last ih =>
    rw [Table.insertAll_concat, Table.get?_insert_entry]
    simp only [isLast_concat_iff]
    by_cases hlast : last.IsFor path method
    · simp [hlast]
    · simp only [if_neg hlast, ih]

theorem get?_insertAll_eq_none_iff {calls : List Entry} {path method : String} :
    (Table.empty.insertAll calls).get? path method = none ↔
      ∀ call ∈ calls, ¬call.IsFor path method := by
  rw [Option.eq_none_iff_forall_ne_some]
  simp only [ne_eq, get?_insertAll_eq_some_iff]
  constructor
  · intro h call hcall hfor
    obtain ⟨last, hlast⟩ := exists_isLast_iff.mpr ⟨call, hcall, hfor⟩
    exact h last.route ⟨last, hlast, rfl⟩
  · rintro h route ⟨last, hlast, -⟩
    exact h last hlast.mem.1 hlast.mem.2

/-! ## Lemmas: what a table holds -/

theorem Entry.Before.not_samePlace {a b : Entry} (h : a.Before b) : ¬a.SamePlace b := by
  rintro ⟨hpath, hmethod⟩
  rcases h with hlt | ⟨-, hlt⟩
  · rw [hpath] at hlt
    exact String.lt_irrefl _ hlt
  · rw [hmethod] at hlt
    exact String.lt_irrefl _ hlt

namespace Table

/-- A table has one entry for each place. -/
theorem eq_of_samePlace (table : Table) {a b : Entry} (ha : a ∈ table.entries)
    (hb : b ∈ table.entries) (h : a.SamePlace b) : a = b := by
  obtain ⟨i, hi, rfl⟩ := List.mem_iff_getElem.mp ha
  obtain ⟨j, hj, rfl⟩ := List.mem_iff_getElem.mp hb
  have hbefore := List.pairwise_iff_getElem.mp table.increasing
  rcases Nat.lt_trichotomy i j with hij | rfl | hij
  · exact absurd h (hbefore i j hi hj hij).not_samePlace
  · rfl
  · exact absurd ⟨h.1.symm, h.2.symm⟩ (hbefore j i hj hi hij).not_samePlace

/-- The entries of a table are what is read from it. -/
theorem mem_entries_iff (table : Table) (e : Entry) :
    e ∈ table.entries ↔
      Ascii.lower e.method = e.method ∧ table.get? e.path e.method = some e.route := by
  unfold get?
  constructor
  · intro he
    have hlower := table.lowered e he
    refine ⟨hlower, ?_⟩
    have hfound : (table.entries.find? fun e' =>
        e'.path = e.path ∧ e'.method = Ascii.lower e.method).isSome = true :=
      List.find?_isSome.mpr ⟨e, he, by simp [hlower]⟩
    obtain ⟨e', he'⟩ := Option.isSome_iff_exists.mp hfound
    have hplace : e'.SamePlace e := by
      have htest := List.find?_some he'
      rw [decide_eq_true_eq, hlower] at htest
      exact htest
    rw [he', table.eq_of_samePlace (List.mem_of_find?_eq_some he') he hplace]
    rfl
  · rintro ⟨hlower, hget⟩
    obtain ⟨e', he', hroute⟩ := Option.map_eq_some_iff.mp hget
    have htest := List.find?_some he'
    rw [decide_eq_true_eq, hlower] at htest
    obtain ⟨path, method, route⟩ := e
    obtain ⟨rfl, rfl⟩ := htest
    obtain rfl := hroute
    exact List.mem_of_find?_eq_some he'

theorem nodup_entries (table : Table) : table.entries.Nodup := by
  refine table.increasing.imp fun h heq => ?_
  rw [heq] at h
  exact h.not_samePlace ⟨rfl, rfl⟩

/-- A table is known by what is read from it. -/
theorem ext_get? {t t' : Table}
    (h : ∀ path method, t.get? path method = t'.get? path method) : t = t' := by
  have hmem : ∀ e, e ∈ t.entries ↔ e ∈ t'.entries := by
    intro e
    rw [mem_entries_iff, mem_entries_iff, h]
  have hperm : t.entries.Perm t'.entries :=
    (List.perm_ext_iff_of_nodup t.nodup_entries t'.nodup_entries).mpr hmem
  have hentries : t.entries = t'.entries :=
    hperm.eq_of_pairwise
      (fun a b _ _ hab hba => absurd ⟨rfl, rfl⟩ (Entry.Before.not_samePlace (hab.trans hba)))
      t.increasing t'.increasing
  obtain ⟨entries, _, _⟩ := t
  obtain ⟨entries', _, _⟩ := t'
  obtain rfl : entries = entries' := hentries
  rfl

theorem isEmpty_iff (table : Table) :
    table.isEmpty = true ↔ ∀ path method, table.get? path method = none := by
  unfold isEmpty
  rw [List.isEmpty_iff]
  constructor
  · intro h path method
    unfold get?
    rw [h]
    rfl
  · intro h
    refine List.eq_nil_iff_forall_not_mem.mpr fun e he => ?_
    have hget := ((table.mem_entries_iff e).mp he).2
    rw [h] at hget
    cases hget

/-- Entries stand in the order of their bytes. -/
theorem pairwise_bytesBefore (table : Table) : table.entries.Pairwise Entry.BytesBefore := by
  refine table.increasing.imp fun {a b} h => ?_
  rcases h with hlt | ⟨heq, hlt⟩
  · exact .inl (Utf8.encode_lt_encode hlt)
  · exact .inr ⟨by rw [heq], Utf8.encode_lt_encode hlt⟩

/-- One more insertion changes the check of the requests for its place alone. -/
theorem check_insert (table : Table) (path method : String) (route : Route) {request : Descriptor}
    (h : ¬(request.path = path ∧ Ascii.lower request.method = Ascii.lower method)) :
    (table.insert path method route).check request = table.check request := by
  have hplace : ¬(path = request.path ∧ Ascii.lower method = Ascii.lower request.method) :=
    fun hp => h ⟨hp.1.symm, hp.2.symm⟩
  unfold check
  rw [get?_insert, if_neg hplace]

theorem get?_lower (table : Table) (path method : String) :
    table.get? path (Ascii.lower method) = table.get? path method := by
  unfold get?
  rw [Ascii.lower_lower]

/-- No place is twice in a table. -/
theorem nodup_places (table : Table) : (table.entries.map Entry.place).Nodup := by
  have hplace : table.entries.map Entry.place = table.entries.map fun e => (e.path, e.method) := by
    refine List.map_congr_left fun e he => ?_
    unfold Entry.place
    rw [table.lowered e he]
  rw [hplace]
  refine List.pairwise_map.mpr (table.increasing.imp fun h heq => ?_)
  exact h.not_samePlace (Prod.mk.inj heq)

/-- A table that is built up has the places of its calls. -/
theorem mem_places_insertAll_iff {calls : List Entry} {place : String × String} :
    place ∈ (empty.insertAll calls).entries.map Entry.place ↔ place ∈ calls.map Entry.place := by
  constructor
  · intro h
    obtain ⟨e, he, rfl⟩ := List.mem_map.mp h
    obtain ⟨-, hget⟩ := (mem_entries_iff _ e).mp he
    obtain ⟨last, hlast, -⟩ := get?_insertAll_eq_some_iff.mp hget
    obtain ⟨hcall, hpath, hmethod⟩ := hlast.mem
    refine List.mem_map.mpr ⟨last, hcall, ?_⟩
    unfold Entry.place
    rw [hpath, hmethod]
  · intro h
    obtain ⟨call, hcall, rfl⟩ := List.mem_map.mp h
    have hfor : ∃ e ∈ calls, e.IsFor call.path call.method := ⟨call, hcall, rfl, rfl⟩
    obtain ⟨last, hlast⟩ := exists_isLast_iff.mpr hfor
    have hget := get?_insertAll_eq_some_iff.mpr ⟨last, hlast, rfl⟩
    rw [← get?_lower] at hget
    have hentry := (mem_entries_iff _ ⟨call.path, Ascii.lower call.method, last.route⟩).mpr
      ⟨Ascii.lower_lower _, hget⟩
    refine List.mem_map.mpr ⟨_, hentry, ?_⟩
    unfold Entry.place
    rw [Ascii.lower_lower]

/-- The size of a table that is built up is the number of different places. -/
theorem size_insertAll (calls : List Entry) :
    (empty.insertAll calls).size = (calls.map Entry.place).dedup.length := by
  have hperm : ((empty.insertAll calls).entries.map Entry.place).Perm
      (calls.map Entry.place).dedup := by
    refine (List.perm_ext_iff_of_nodup (nodup_places _) (List.nodup_dedup _)).mpr fun place => ?_
    rw [mem_places_insertAll_iff, List.mem_dedup]
  rw [← hperm.length_eq, List.length_map]
  rfl

/-! ## The theorem -/

/-- **A table is its last insertions.** Whatever is inserted into the table without rules, the
table has, for a path and method in any letter case, the rules of the last call for these, and none
without such a call. Its entries stand in the strict order of their bytes, and are what is read
under methods in lower case; their number is that of the different places. A further insertion
changes nothing for the requests for other places. -/
theorem insertAll_last_wins (calls : List Entry) :
    (∀ path method,
      (∀ route, (empty.insertAll calls).get? path method = some route ↔
        ∃ call, IsLast (Entry.IsFor path method) calls call ∧ call.route = route) ∧
      ((empty.insertAll calls).get? path method = none ↔
        ∀ call ∈ calls, ¬call.IsFor path method)) ∧
    (empty.insertAll calls).entries.Pairwise Entry.BytesBefore ∧
    (∀ path method route, ⟨path, method, route⟩ ∈ (empty.insertAll calls).entries ↔
      Ascii.lower method = method ∧
        (empty.insertAll calls).get? path method = some route) ∧
    (empty.insertAll calls).size = (empty.insertAll calls).entries.length ∧
    (empty.insertAll calls).size = (calls.map Entry.place).dedup.length ∧
    ((empty.insertAll calls).isEmpty = true ↔
      ∀ path method, (empty.insertAll calls).get? path method = none) ∧
    ∀ path method route request,
      ¬(request.path = path ∧ Ascii.lower request.method = Ascii.lower method) →
      ((empty.insertAll calls).insert path method route).check request =
        (empty.insertAll calls).check request := by
  refine ⟨fun path method => ⟨fun route => ?_, ?_⟩, ?_, fun path method route => ?_, rfl, ?_, ?_,
    fun path method route request h => ?_⟩
  · exact get?_insertAll_eq_some_iff
  · exact get?_insertAll_eq_none_iff
  · exact pairwise_bytesBefore _
  · exact mem_entries_iff _ _
  · exact size_insertAll calls
  · exact isEmpty_iff _
  · exact check_insert _ path method route h

end Table

end Gatehouse.Rules
