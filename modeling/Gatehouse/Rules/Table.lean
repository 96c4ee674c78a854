import Gatehouse.Rules.Route
/-!
The table of rules, read by path and method.

Methods have no letter case: the table keeps them in lower case and lowers what it is asked for.
Entries stand in increasing order of path, then method, so a path and method have one entry.
Main statement: `get?_insert` says what is read after an addition.
-/

namespace Gatehouse.Rules

/-- One route of a table, with the path and method it is for. -/
structure Entry where
  path : String
  method : String
  route : Route

namespace Entry

/-- The path and method come before those of the other entry. -/
def Before (a b : Entry) : Prop :=
  a.path < b.path ∨ a.path = b.path ∧ a.method < b.method

instance (a b : Entry) : Decidable (a.Before b) :=
  inferInstanceAs (Decidable (_ ∨ _))

/-- The two entries are for one path and method. -/
def SamePlace (a b : Entry) : Prop :=
  a.path = b.path ∧ a.method = b.method

instance (a b : Entry) : Decidable (a.SamePlace b) :=
  inferInstanceAs (Decidable (_ ∧ _))

theorem Before.trans {a b c : Entry} (hab : a.Before b) (hbc : b.Before c) : a.Before c := by
  rcases hab with hab | ⟨hab, hm⟩
  · rcases hbc with hbc | ⟨hbc, -⟩
    · exact .inl (String.lt_trans hab hbc)
    · exact .inl (hbc ▸ hab)
  · rcases hbc with hbc | ⟨hbc, hm'⟩
    · exact .inl (hab ▸ hbc)
    · exact .inr ⟨hab.trans hbc, String.lt_trans hm hm'⟩

/-- Entries of different places are in one order or the other. -/
theorem before_of_not_before {a b : Entry} (hne : ¬a.SamePlace b) (hab : ¬a.Before b) :
    b.Before a := by
  by_cases hp : a.path = b.path
  · right
    have hm : ¬a.method < b.method := fun h => hab (.inr ⟨hp, h⟩)
    refine ⟨hp.symm, Std.lt_of_le_of_ne (String.not_lt.mp hm) fun h => hne ⟨hp, h.symm⟩⟩
  · left
    have hlt : ¬a.path < b.path := fun h => hab (.inl h)
    exact Std.lt_of_le_of_ne (String.not_lt.mp hlt) fun h => hp h.symm

/-- Two entries of one place come before the same entries. -/
theorem Before.congr {a b c : Entry} (h : a.SamePlace b) (hac : a.Before c) : b.Before c := by
  obtain ⟨hp, hm⟩ := h
  simpa only [Before, hp, hm] using hac

/-- Sets an entry among entries in increasing order: it replaces the one at its place. -/
def put (entry : Entry) : List Entry → List Entry
  | [] => [entry]
  | e :: rest =>
    if e.SamePlace entry then entry :: rest
    else if entry.Before e then entry :: e :: rest
    else e :: put entry rest

theorem mem_put {entry e : Entry} {entries : List Entry} (h : e ∈ put entry entries) :
    e = entry ∨ e ∈ entries := by
  induction entries with
  | nil => exact .inl (List.mem_singleton.mp h)
  | cons a rest ih =>
    unfold put at h
    split at h
    · rcases List.mem_cons.mp h with h | h
      · exact .inl h
      · exact .inr (List.mem_cons_of_mem _ h)
    · split at h
      · rcases List.mem_cons.mp h with h | h
        · exact .inl h
        · exact .inr h
      · rcases List.mem_cons.mp h with h | h
        · exact .inr (h ▸ List.mem_cons_self)
        · exact (ih h).imp_right (List.mem_cons_of_mem _)

theorem pairwise_put {entries : List Entry} (h : entries.Pairwise Before) (entry : Entry) :
    (put entry entries).Pairwise Before := by
  induction entries with
  | nil => simp [put]
  | cons a rest ih =>
    obtain ⟨ha, hrest⟩ := List.pairwise_cons.mp h
    unfold put
    split
    · next hsame => exact List.pairwise_cons.mpr ⟨fun b hb => (ha b hb).congr hsame, hrest⟩
    · next hne =>
      split
      · next hlt =>
        refine List.pairwise_cons.mpr ⟨fun b hb => ?_, h⟩
        rcases List.mem_cons.mp hb with rfl | hb
        · exact hlt
        · exact hlt.trans (ha b hb)
      · next hlt =>
        refine List.pairwise_cons.mpr ⟨fun b hb => ?_, ih hrest⟩
        rcases mem_put hb with rfl | hb
        · exact before_of_not_before (fun hs => hne ⟨hs.1.symm, hs.2.symm⟩) hlt
        · exact ha b hb

end Entry

/-! ## Tables -/

/-- A table of rules. -/
structure Table where
  entries : List Entry
  increasing : entries.Pairwise Entry.Before
  lowered : ∀ e ∈ entries, Ascii.lower e.method = e.method

namespace Table

/-- The table without rules. -/
def empty : Table :=
  ⟨[], .nil, fun _ h => nomatch h⟩

/-- Sets the rules for a path and method. -/
def insert (table : Table) (path method : String) (route : Route) : Table where
  entries := Entry.put ⟨path, Ascii.lower method, route⟩ table.entries
  increasing := Entry.pairwise_put table.increasing _
  lowered := by
    intro e he
    rcases Entry.mem_put he with rfl | he
    · exact Ascii.lower_lower method
    · exact table.lowered e he

/-- The rules for a path and method. -/
def get? (table : Table) (path method : String) : Option Route :=
  (table.entries.find? fun e => e.path = path ∧ e.method = Ascii.lower method).map Entry.route

/-- The number of routes. -/
def size (table : Table) : Nat :=
  table.entries.length

/-- The table has no routes. -/
def isEmpty (table : Table) : Bool :=
  table.entries.isEmpty

theorem find?_put (entries : List Entry) (entry : Entry) (path method : String) :
    ((Entry.put entry entries).find? fun e => e.path = path ∧ e.method = method).map Entry.route =
      if entry.path = path ∧ entry.method = method then some entry.route
      else (entries.find? fun e => e.path = path ∧ e.method = method).map Entry.route := by
  induction entries with
  | nil => by_cases h : entry.path = path ∧ entry.method = method <;> simp [Entry.put, h]
  | cons a rest ih =>
    unfold Entry.put
    split
    · next hsame =>
      obtain ⟨hp, hm⟩ := hsame
      by_cases h : entry.path = path ∧ entry.method = method <;>
        simp [h, hp, hm]
    · next hne =>
      split
      · by_cases h : entry.path = path ∧ entry.method = method <;> simp [List.find?_cons, h]
      · by_cases h : a.path = path ∧ a.method = method
        · have hentry : ¬(entry.path = path ∧ entry.method = method) := fun he =>
            hne ⟨h.1.trans he.1.symm, h.2.trans he.2.symm⟩
          simp [h, hentry]
        · rw [List.find?_cons_of_neg (by simpa using h), ih,
            List.find?_cons_of_neg (by simpa using h)]

theorem get?_insert (table : Table) (path method path' method' : String) (route : Route) :
    (table.insert path method route).get? path' method' =
      if path = path' ∧ Ascii.lower method = Ascii.lower method' then some route
      else table.get? path' method' :=
  find?_put table.entries ⟨path, Ascii.lower method, route⟩ path' (Ascii.lower method')

end Table

end Gatehouse.Rules
