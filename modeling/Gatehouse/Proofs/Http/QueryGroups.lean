import Gatehouse.Http.Query
import Mathlib.Data.List.Induction
/-!
What pairs of texts become: one entry for each name.

The pairs of a name are its group, however they are spread over the list and whether or not they
are written with `[]`. `ofPairs` goes through the pairs once and changes entries on the way; its
result is said here by the groups alone.

    ofPairs pairs = one entry for each name, in the order in which the names come first,
                    with the value that the group of the name has     (ofPairs_eq_map_groups)
-/

namespace Gatehouse.Http.Query

/-! ## Groups -/

/-- The key of a pair ends in `[]`. -/
def Bracketed (pair : String × String) : Prop :=
  ∃ stem, pair.1 = stem ++ "[]"

/-- The name that a pair is for: its key without one `[]` at the end. -/
def nameOf (pair : String × String) : String :=
  (splitKey pair.1).1

/-- The names of pairs, in the order in which they come first. -/
def names (pairs : List (String × String)) : List String :=
  (pairs.map nameOf).eraseDups

/-- The values of the pairs for a name, in order. -/
def group (pairs : List (String × String)) (name : String) : List String :=
  (pairs.filter fun p => nameOf p = name).map Prod.snd

/-- A name is given more than once, or with `[]`. -/
def IsMulti (pairs : List (String × String)) (name : String) : Prop :=
  2 ≤ (group pairs name).length ∨ ∃ p ∈ pairs, nameOf p = name ∧ Bracketed p

/-! ## Lemmas: keys -/

theorem splitKey_append (stem : String) : splitKey (stem ++ "[]") = (stem, true) := by
  have hlist : (stem ++ "[]").toList = stem.toList ++ ['[', ']'] := by
    rw [String.toList_append]
    rfl
  unfold splitKey
  rw [hlist, if_pos (List.isSuffixOf_iff_suffix.mpr (List.suffix_append _ _))]
  have hdrop : (stem.toList ++ ['[', ']']).dropLast.dropLast = stem.toList := by
    rw [List.dropLast_append_of_ne_nil (by simp), List.dropLast_append_of_ne_nil (by simp)]
    simp
  rw [hdrop, String.ofList_toList]

theorem splitKey_plain {key : String} (h : ¬∃ stem, key = stem ++ "[]") :
    splitKey key = (key, false) := by
  unfold splitKey
  rw [if_neg fun hsuffix => h ?_]
  obtain ⟨front, hfront⟩ := List.isSuffixOf_iff_suffix.mp hsuffix
  refine ⟨String.ofList front, ?_⟩
  rw [← String.toList_inj, String.toList_append, String.toList_ofList, ← hfront]
  rfl

theorem splitKey_snd_iff {pair : String × String} :
    (splitKey pair.1).2 = true ↔ Bracketed pair := by
  constructor
  · intro h
    by_cases hb : Bracketed pair
    · exact hb
    · rw [splitKey_plain hb] at h
      cases h
  · rintro ⟨stem, hstem⟩
    rw [hstem, splitKey_append]

instance (pair : String × String) : Decidable (Bracketed pair) :=
  decidable_of_iff _ splitKey_snd_iff

instance (pairs : List (String × String)) (name : String) : Decidable (IsMulti pairs name) :=
  inferInstanceAs (Decidable (_ ∨ _))

/-- The pairs for a name have the name itself as their key, or the name and `[]` behind it; a key
that ends in `[]` is never plain. -/
theorem nameOf_eq_iff {pair : String × String} {name : String} :
    nameOf pair = name ↔ pair.1 = name ++ "[]" ∨ pair.1 = name ∧ ¬Bracketed pair := by
  unfold nameOf
  by_cases hb : Bracketed pair
  · obtain ⟨stem, hstem⟩ := hb
    rw [hstem, splitKey_append]
    constructor
    · rintro rfl
      exact .inl rfl
    · rintro (heq | ⟨-, hnot⟩)
      · exact (String.append_left_inj "[]").mp heq
      · exact absurd ⟨stem, hstem⟩ hnot
  · rw [splitKey_plain hb]
    constructor
    · intro heq
      exact .inr ⟨heq, hb⟩
    · rintro (heq | ⟨heq, -⟩)
      · exact absurd ⟨name, heq⟩ hb
      · exact heq

/-- The value that the pairs for a name make: their one text, or the list of their texts. -/
def valueOf (pairs : List (String × String)) (name : String) : Json :=
  if IsMulti pairs name then .array ((group pairs name).map .string)
  else .string ((group pairs name).headD "")

/-! ## Lemmas: names without duplicates -/

theorem eraseDups_concat (ns : List String) (n : String) :
    (ns ++ [n]).eraseDups = if n ∈ ns then ns.eraseDups else ns.eraseDups ++ [n] := by
  rw [List.eraseDups_append]
  by_cases h : n ∈ ns
  · simp [h, List.removeAll]
  · simp [h, List.removeAll, List.eraseDups_cons]

theorem nodup_eraseDups (ns : List String) : ns.eraseDups.Nodup := by
  induction ns using List.reverseRecOn with
  | nil => exact List.nodup_nil
  | append_singleton ns n ih =>
    rw [eraseDups_concat]
    split
    · exact ih
    · next hn =>
      refine List.nodup_append.mpr ⟨ih, List.pairwise_singleton _ n, fun a ha b hb heq => ?_⟩
      obtain rfl := List.mem_singleton.mp hb
      exact hn (List.mem_eraseDups.mp (heq ▸ ha))

theorem nodup_names (pairs : List (String × String)) : (names pairs).Nodup :=
  nodup_eraseDups _

theorem mem_names_iff {pairs : List (String × String)} {name : String} :
    name ∈ names pairs ↔ ∃ p ∈ pairs, nameOf p = name := by
  unfold names
  rw [List.mem_eraseDups, List.mem_map]

theorem names_concat (pairs : List (String × String)) (pair : String × String) :
    names (pairs ++ [pair]) =
      if nameOf pair ∈ names pairs then names pairs else names pairs ++ [nameOf pair] := by
  unfold names
  rw [List.map_append, List.map_singleton, eraseDups_concat]
  simp only [List.mem_eraseDups]

/-! ## Lemmas: one more pair -/

theorem group_eq_nil_iff {pairs : List (String × String)} {name : String} :
    group pairs name = [] ↔ name ∉ names pairs := by
  unfold group
  rw [List.map_eq_nil_iff, List.filter_eq_nil_iff, mem_names_iff]
  simp

theorem group_concat_self (pairs : List (String × String)) (pair : String × String) :
    group (pairs ++ [pair]) (nameOf pair) = group pairs (nameOf pair) ++ [pair.2] := by
  unfold group
  rw [List.filter_append, List.map_append]
  simp

theorem group_concat_ne {pairs : List (String × String)} {pair : String × String} {name : String}
    (h : nameOf pair ≠ name) : group (pairs ++ [pair]) name = group pairs name := by
  unfold group
  rw [List.filter_append, List.map_append]
  simp [h]

theorem isMulti_concat_ne {pairs : List (String × String)} {pair : String × String}
    {name : String} (h : nameOf pair ≠ name) :
    IsMulti (pairs ++ [pair]) name ↔ IsMulti pairs name := by
  unfold IsMulti
  rw [group_concat_ne h]
  constructor
  · rintro (hlong | ⟨p, hp, hname, hb⟩)
    · exact .inl hlong
    · rcases List.mem_append.mp hp with hp | hp
      · exact .inr ⟨p, hp, hname, hb⟩
      · obtain rfl := List.mem_singleton.mp hp
        exact absurd hname h
  · rintro (hlong | ⟨p, hp, hname, hb⟩)
    · exact .inl hlong
    · exact .inr ⟨p, List.mem_append_left _ hp, hname, hb⟩

/-- A second pair makes a name multi. -/
theorem isMulti_concat_of_mem {pairs : List (String × String)} {pair : String × String}
    (h : nameOf pair ∈ names pairs) : IsMulti (pairs ++ [pair]) (nameOf pair) := by
  left
  have hlength : 0 < (group pairs (nameOf pair)).length :=
    List.length_pos_iff.mpr fun hnil => group_eq_nil_iff.mp hnil h
  rw [group_concat_self, List.length_append, List.length_singleton]
  omega

/-- A first pair makes its name multi only by its brackets. -/
theorem isMulti_concat_new {pairs : List (String × String)} {pair : String × String}
    (h : nameOf pair ∉ names pairs) :
    IsMulti (pairs ++ [pair]) (nameOf pair) ↔ Bracketed pair := by
  unfold IsMulti
  rw [group_concat_self, group_eq_nil_iff.mpr h]
  constructor
  · rintro (hlong | ⟨p, hp, hname, hb⟩)
    · simp at hlong
    · rcases List.mem_append.mp hp with hp | hp
      · exact absurd (mem_names_iff.mpr ⟨p, hp, hname⟩) h
      · obtain rfl := List.mem_singleton.mp hp
        exact hb
  · intro hb
    exact .inr ⟨pair, List.mem_append_right _ (List.mem_singleton.mpr rfl), rfl, hb⟩

theorem valueOf_concat_ne {pairs : List (String × String)} {pair : String × String}
    {name : String} (h : nameOf pair ≠ name) :
    valueOf (pairs ++ [pair]) name = valueOf pairs name := by
  unfold valueOf
  simp only [isMulti_concat_ne h, group_concat_ne h]

/-- A group that is not multi is empty, or one text. -/
theorem exists_group_eq_singleton {pairs : List (String × String)} {name : String}
    (hmulti : ¬IsMulti pairs name) (hname : name ∈ names pairs) :
    ∃ text, group pairs name = [text] := by
  have hpos : 0 < (group pairs name).length :=
    List.length_pos_iff.mpr fun hnil => group_eq_nil_iff.mp hnil hname
  have hshort : ¬2 ≤ (group pairs name).length := fun hlong => hmulti (.inl hlong)
  exact List.length_eq_one_iff.mp (by omega)

/-- Merging one more text into the value of a name gives the value with one more pair. -/
theorem merge_valueOf {pairs : List (String × String)} {pair : String × String}
    (h : nameOf pair ∈ names pairs) (many : Bool) :
    merge (some (valueOf pairs (nameOf pair))) many pair.2 =
      valueOf (pairs ++ [pair]) (nameOf pair) := by
  unfold valueOf
  rw [if_pos (isMulti_concat_of_mem h), group_concat_self, List.map_append]
  by_cases hmulti : IsMulti pairs (nameOf pair)
  · rw [if_pos hmulti]
    rfl
  · rw [if_neg hmulti]
    obtain ⟨text, htext⟩ := exists_group_eq_singleton hmulti h
    rw [htext]
    rfl

theorem merge_none {pairs : List (String × String)} {pair : String × String}
    (h : nameOf pair ∉ names pairs) :
    merge none (splitKey pair.1).2 pair.2 = valueOf (pairs ++ [pair]) (nameOf pair) := by
  unfold valueOf
  simp only [isMulti_concat_new h, group_concat_self, group_eq_nil_iff.mpr h]
  by_cases hb : Bracketed pair
  · rw [splitKey_snd_iff.mpr hb, if_pos hb]
    rfl
  · rw [splitKey_plain hb, if_neg hb]
    rfl

/-! ## All pairs -/

/-- **Pairs become their groups.** Each name has one entry, at the place where it comes first,
with the value of its group. -/
theorem ofPairs_eq_map_groups (pairs : List (String × String)) :
    ofPairs pairs = (names pairs).map fun name => (name, valueOf pairs name) := by
  -- the last pair changes the entry of its own name alone
  induction pairs using List.reverseRecOn with
  | nil => rfl
  | append_singleton pairs pair ih =>
    have hlast : ofPairs (pairs ++ [pair]) = addPair (ofPairs pairs) pair := by
      unfold ofPairs
      rw [List.foldl_append]
      rfl
    have hadd : addPair (ofPairs pairs) pair = Fields.put (ofPairs pairs) (nameOf pair)
        (merge (Fields.get? (ofPairs pairs) (nameOf pair)) (splitKey pair.1).2 pair.2) := rfl
    rw [hlast, hadd, ih, names_concat]
    by_cases hmem : nameOf pair ∈ names pairs
    · rw [if_pos hmem, Fields.get?_map_of_mem _ hmem, merge_valueOf hmem,
        Fields.put_map_of_mem (nodup_names pairs) _ hmem]
      refine List.map_congr_left fun name _ => ?_
      by_cases hname : name = nameOf pair
      · rw [if_pos hname, hname]
      · rw [if_neg hname, valueOf_concat_ne fun heq => hname heq.symm]
    · have hfields : Fields.names ((names pairs).map fun name => (name, valueOf pairs name)) =
          names pairs := by
        unfold Fields.names
        rw [List.map_map]
        exact List.map_id _
      have hnew : nameOf pair ∉ Fields.names
          ((names pairs).map fun name => (name, valueOf pairs name)) := by
        rw [hfields]
        exact hmem
      rw [if_neg hmem, Fields.get?_eq_none_iff.mpr hnew, merge_none hmem,
        Fields.put_of_not_mem hnew, List.map_append, List.map_singleton]
      congr 1
      refine List.map_congr_left fun name hname => ?_
      have hne : nameOf pair ≠ name := fun heq => hmem (heq ▸ hname)
      rw [valueOf_concat_ne hne]

end Gatehouse.Http.Query
