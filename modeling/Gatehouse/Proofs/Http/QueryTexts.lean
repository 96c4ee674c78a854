import Gatehouse.Proofs.Http.QueryGroups
import Mathlib.Data.List.Basic
/-!
The texts of pairs, found again in what the pairs become.

`ofPairs` puts the texts of pairs under the names of the pairs, where a name has one text or a list
of texts. Nothing is lost on the way, nothing is there twice, and the texts of a name stay in order:

    the names          the names of the pairs, each where it comes first
    a name has `text`  ↔  one pair alone is for the name, without `[]`, and has the text
    else               the list of the texts of all pairs for the name
    all texts, each with its name  ~  all pairs                     (ofPairs_keeps_texts)

The name of a pair is its key without one `[]`, so `a[][]` is for the name `a[]`, and `[]` is for
the empty name.
-/

namespace Gatehouse.Http.Query

/-! ## Texts under names -/

/-- The pairs for a name, in order. -/
def sent (pairs : List (String × String)) (name : String) : List (String × String) :=
  pairs.filter fun pair => nameOf pair = name

/-- The value is what the pairs for a name tell: the text of a single pair without `[]`, or else
the list of their texts. -/
inductive Told (pairs : List (String × String)) (name : String) : Json → Prop
  | one {pair : String × String} : sent pairs name = [pair] → ¬Bracketed pair →
      Told pairs name (.string pair.2)
  | many : sent pairs name ≠ [] → (∀ pair, sent pairs name = [pair] → Bracketed pair) →
      Told pairs name (.array ((sent pairs name).map fun pair => .string pair.2))

/-- The value is a string, or a list of strings that is not empty. -/
inductive OneOrMany : Json → Prop
  | one (text : String) : OneOrMany (.string text)
  | many {texts : List String} : texts ≠ [] → OneOrMany (.array (texts.map .string))

/-- The text of a string. -/
def textOf? : Json → Option String
  | .string text => some text
  | _ => none

/-- The texts of a string, or of the strings in a list. -/
def textsOf : Json → List String
  | .string text => [text]
  | .array items => items.filterMap textOf?
  | _ => []

/-! ## Lemmas: the pairs for a name -/

variable {pairs : List (String × String)} {name : String}

theorem mem_sent_iff {pair : String × String} :
    pair ∈ sent pairs name ↔ pair ∈ pairs ∧ nameOf pair = name := by
  unfold sent
  rw [List.mem_filter, decide_eq_true_eq]

theorem sent_ne_nil_iff : sent pairs name ≠ [] ↔ name ∈ names pairs := by
  have hgroup : group pairs name = [] ↔ sent pairs name = [] := List.map_eq_nil_iff
  rw [ne_eq, ← hgroup, group_eq_nil_iff, not_not]

/-- A name that is there is not multi iff one pair alone is for it, without `[]`. -/
theorem not_isMulti_iff (h : name ∈ names pairs) :
    ¬IsMulti pairs name ↔ ∃ pair, sent pairs name = [pair] ∧ ¬Bracketed pair := by
  constructor
  · intro hmulti
    obtain ⟨text, htext⟩ := exists_group_eq_singleton hmulti h
    obtain ⟨pair, hpair, -⟩ : ∃ pair, sent pairs name = [pair] ∧ pair.2 = text :=
      List.map_eq_singleton_iff.mp htext
    have hmem : pair ∈ sent pairs name := by
      rw [hpair]
      exact List.mem_singleton.mpr rfl
    obtain ⟨hin, hname⟩ := mem_sent_iff.mp hmem
    exact ⟨pair, hpair, fun hbracketed => hmulti (.inr ⟨pair, hin, hname, hbracketed⟩)⟩
  · rintro ⟨pair, hpair, hplain⟩ (hlong | ⟨other, hin, hname, hbracketed⟩)
    · have hlength : (group pairs name).length = (sent pairs name).length := List.length_map _
      rw [hlength, hpair] at hlong
      simp at hlong
    · have hmem : other ∈ sent pairs name := mem_sent_iff.mpr ⟨hin, hname⟩
      rw [hpair] at hmem
      obtain rfl := List.mem_singleton.mp hmem
      exact hplain hbracketed

/-! ## Lemmas: the value of a name -/

theorem told_valueOf (h : name ∈ names pairs) : Told pairs name (valueOf pairs name) := by
  by_cases hmulti : IsMulti pairs name
  · have hvalue : valueOf pairs name =
        .array ((sent pairs name).map fun pair => .string pair.2) := by
      unfold valueOf
      rw [if_pos hmulti]
      exact congrArg Json.array List.map_map
    rw [hvalue]
    refine .many (sent_ne_nil_iff.mpr h) fun pair hpair => ?_
    by_contra hplain
    exact (not_isMulti_iff h).mpr ⟨pair, hpair, hplain⟩ hmulti
  · obtain ⟨pair, hpair, hplain⟩ := (not_isMulti_iff h).mp hmulti
    have hvalue : valueOf pairs name = .string pair.2 := by
      have hgroup : group pairs name = [pair.2] := congrArg (List.map Prod.snd) hpair
      unfold valueOf
      rw [if_neg hmulti, hgroup]
      rfl
    rw [hvalue]
    exact .one hpair hplain

theorem Told.unique {value value' : Json} (h : Told pairs name value)
    (h' : Told pairs name value') : value = value' := by
  cases h with
  | one hpair hplain =>
    cases h' with
    | one hpair' _ =>
      obtain rfl := List.singleton_inj.mp (hpair.symm.trans hpair')
      rfl
    | many _ hall => exact absurd (hall _ hpair) hplain
  | many _ hall =>
    cases h' with
    | one hpair hplain => exact absurd (hall _ hpair) hplain
    | many _ _ => rfl

theorem Told.mem_names {value : Json} (h : Told pairs name value) : name ∈ names pairs := by
  apply sent_ne_nil_iff.mp
  cases h with
  | one hpair _ =>
    rw [hpair]
    exact List.cons_ne_nil _ _
  | many hne _ => exact hne

theorem Told.oneOrMany {value : Json} (h : Told pairs name value) : OneOrMany value := by
  cases h with
  | one _ _ => exact .one _
  | many hne _ =>
    have hmap : (sent pairs name).map (fun pair => Json.string pair.2) =
        ((sent pairs name).map Prod.snd).map .string := List.map_map.symm
    rw [hmap]
    exact .many fun hnil => hne (List.map_eq_nil_iff.mp hnil)

/-- The strings of the value are the texts of the pairs for the name. -/
theorem Told.textsOf_eq {value : Json} (h : Told pairs name value) :
    textsOf value = (sent pairs name).map Prod.snd := by
  cases h with
  | one hpair _ =>
    rw [hpair]
    rfl
  | many _ _ =>
    show ((sent pairs name).map fun pair => Json.string pair.2).filterMap textOf? = _
    rw [List.filterMap_map]
    exact congrFun List.filterMap_eq_map _

theorem get?_ofPairs_iff {value : Json} :
    Fields.get? (ofPairs pairs) name = some value ↔ Told pairs name value := by
  rw [ofPairs_eq_map_groups]
  constructor
  · intro h
    obtain ⟨name', hname', heq⟩ := List.mem_map.mp (Fields.mem_of_get? h)
    obtain ⟨rfl, rfl⟩ := Prod.mk.inj heq
    exact told_valueOf hname'
  · intro h
    rw [Fields.get?_map_of_mem _ h.mem_names, (told_valueOf h.mem_names).unique h]

/-! ## Lemmas: all names -/

/-- The pairs for some names, name by name, are the pairs for these names. -/
theorem flatMap_sent_perm {ns : List String} (hns : ns.Nodup) :
    (ns.flatMap (sent pairs)).Perm (pairs.filter fun pair => nameOf pair ∈ ns) := by
  induction ns with
  | nil => simp
  | cons n rest ih =>
    obtain ⟨hn, hrest⟩ := List.nodup_cons.mp hns
    -- of the pairs for all these names, those for the first one are split off
    let all := pairs.filter fun pair => nameOf pair ∈ n :: rest
    have hfirst : sent pairs n = all.filter fun pair => nameOf pair = n := by
      unfold sent
      rw [List.filter_filter]
      refine List.filter_congr fun pair _ => ?_
      by_cases hname : nameOf pair = n <;> simp [hname]
    have hothers : (pairs.filter fun pair => nameOf pair ∈ rest) =
        all.filter fun pair => !decide (nameOf pair = n) := by
      rw [List.filter_filter]
      refine List.filter_congr fun pair _ => ?_
      by_cases hname : nameOf pair = n
      · simp [hname, hn]
      · simp [hname]
    rw [List.flatMap_cons, hfirst]
    refine ((ih hrest).append_left _).trans ?_
    rw [hothers]
    exact List.filter_append_perm _ all

/-- All texts, each with its name, are those of the pairs. -/
theorem flatMap_ofPairs_perm (pairs : List (String × String)) :
    ((ofPairs pairs).flatMap fun field => (textsOf field.2).map fun text => (field.1, text)).Perm
      (pairs.map fun pair => (nameOf pair, pair.2)) := by
  have htexts : ∀ name ∈ names pairs,
      ((textsOf (valueOf pairs name)).map fun text => (name, text)) =
        (sent pairs name).map fun pair => (nameOf pair, pair.2) := by
    intro name hname
    rw [(told_valueOf hname).textsOf_eq, List.map_map]
    refine List.map_congr_left fun pair hpair => ?_
    rw [(mem_sent_iff.mp hpair).2]
    rfl
  have hall : (pairs.filter fun pair => nameOf pair ∈ names pairs) = pairs := by
    rw [List.filter_eq_self]
    intro pair hpair
    exact decide_eq_true (mem_names_iff.mpr ⟨pair, hpair, rfl⟩)
  rw [ofPairs_eq_map_groups, List.flatMap_map, List.flatMap_congr htexts, ← List.map_flatMap]
  refine List.Perm.map _ ?_
  have hperm : ((names pairs).flatMap (sent pairs)).Perm _ := flatMap_sent_perm (nodup_names pairs)
  rwa [hall] at hperm

/-! ## The theorem -/

/-- **No text of a pair is lost, doubled or moved.** The names are those of the pairs, in the order
in which they come first; each has the text of its one pair, or the list of the texts of its pairs
in their order. So all values are strings or lists of strings, and there are as many strings as
pairs: the same ones, under the same names. -/
theorem ofPairs_keeps_texts (pairs : List (String × String)) :
    (∀ pair : String × String,
      pair.1 = nameOf pair ++ "[]" ∨ pair.1 = nameOf pair ∧ ¬Bracketed pair) ∧
    Fields.names (ofPairs pairs) = (pairs.map nameOf).eraseDups ∧
    (∀ name value, Fields.get? (ofPairs pairs) name = some value ↔ Told pairs name value) ∧
    (∀ field ∈ ofPairs pairs, OneOrMany field.2) ∧
    ((ofPairs pairs).flatMap fun field => (textsOf field.2).map fun text => (field.1, text)).Perm
      (pairs.map fun pair => (nameOf pair, pair.2)) ∧
    ((ofPairs pairs).flatMap fun field => textsOf field.2).length = pairs.length := by
  have hperm := flatMap_ofPairs_perm pairs
  refine ⟨?_, ?_, ?_, ?_, hperm, ?_⟩
  · intro pair
    exact nameOf_eq_iff.mp rfl
  · rw [ofPairs_eq_map_groups, Fields.names, List.map_map]
    exact List.map_id _
  · intro name value
    exact get?_ofPairs_iff
  · intro field hfield
    rw [ofPairs_eq_map_groups] at hfield
    obtain ⟨name, hname, rfl⟩ := List.mem_map.mp hfield
    exact (told_valueOf hname).oneOrMany
  · have htexts := hperm.map Prod.snd
    rw [List.map_flatMap, List.map_map] at htexts
    simpa [Function.comp_def] using htexts.length_eq

/-- Pairs with an empty name, and with a name that ends in `[]`. -/
def oddPairs : List (String × String) :=
  [("a[][]", "1"), ("", "2"), ("b", "3"), ("[]", "4"), ("a[]", "5")]

/-- Their names and the values of three of them. -/
theorem ofPairs_oddPairs :
    Fields.names (ofPairs oddPairs) = ["a[]", "", "b", "a"] ∧
    Fields.get? (ofPairs oddPairs) "a[]" = some (.array [.string "1"]) ∧
    Fields.get? (ofPairs oddPairs) "" = some (.array [.string "2", .string "4"]) ∧
    Fields.get? (ofPairs oddPairs) "b" = some (.string "3") := by
  obtain ⟨-, hnames, hvalue, -⟩ := ofPairs_keeps_texts oddPairs
  refine ⟨hnames.trans (by decide), ?_, ?_, ?_⟩
  · refine (hvalue "a[]" _).mpr (.many (by decide) fun pair hpair => ?_)
    obtain rfl : ("a[][]", "1") = pair := List.singleton_inj.mp hpair
    exact ⟨"a[]", rfl⟩
  · refine (hvalue "" _).mpr (.many (by decide) fun pair hpair => ?_)
    cases congrArg List.length hpair
  · have hpair : sent oddPairs "b" = [("b", "3")] := by decide
    exact (hvalue "b" _).mpr (.one hpair (by decide))

end Gatehouse.Http.Query
