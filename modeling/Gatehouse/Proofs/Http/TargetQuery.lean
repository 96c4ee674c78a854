import Gatehouse.Http.Guard
import Gatehouse.Proofs.Http.FormWriting
/-!
A target and its query.

A target is read in one of several forms, but where its query stands does not depend on the form:
it is what stands between the first question mark and the first `#`. A target carries pairs if
they are written there, in any of the ways there are. Then

    uri.Carries pairs                       →  Query.ofUri uri = Query.ofPairs pairs
    uri.Carries pairs, uri'.Carries pairs   →  both are checked alike        (check_of_carries)

so no way to write a query is a way around the rules. All pairs that fit a target are carried by
one (`Uri.carries_text`).
-/

namespace Gatehouse.Http

namespace Uri

/-! ## Where the query stands -/

/-- What stands behind the first question mark and in front of the first `#`, if there is a
question mark. -/
def queryOf (cs : List Char) : Option (List Char) :=
  (cutQuery (beforeFragment cs)).2

/-- The characters neither start a query nor end it. -/
def Inert (cs : List Char) : Prop :=
  '?' ∉ cs ∧ '#' ∉ cs

instance (cs : List Char) : Decidable (Inert cs) :=
  inferInstanceAs (Decidable (_ ∧ _))

theorem queryOf_append {front : List Char} (h : Inert front) (cs : List Char) :
    queryOf (front ++ cs) = queryOf cs := by
  have hfragment : beforeFragment (front ++ cs) = front ++ beforeFragment cs :=
    List.takeWhile_append_of_pos (bne_of_notMem h.2)
  have hquery : (front ++ beforeFragment cs).dropWhile (· != '?') =
      (beforeFragment cs).dropWhile (· != '?') :=
    List.dropWhile_append_of_pos (bne_of_notMem h.1)
  unfold queryOf cutQuery
  rw [hfragment, hquery]
  cases (beforeFragment cs).dropWhile (· != '?') <;> rfl

theorem queryOf_of_inert {cs : List Char} (h : Inert cs) : queryOf cs = none := by
  rw [← List.append_nil cs, queryOf_append h]
  rfl

theorem cutQuery_separator {front : List Char} (h : '?' ∉ front) (query : List Char) :
    cutQuery (front ++ '?' :: query) = (front, some query) := by
  unfold cutQuery
  rw [dropWhile_separator h, takeWhile_separator h]

theorem beforeFragment_separator {front query : List Char} (hfront : '#' ∉ front)
    (hquery : '#' ∉ query) :
    beforeFragment (front ++ '?' :: query) = front ++ '?' :: query := by
  have hnone : '#' ∉ front ++ '?' :: query := by
    rw [List.mem_append, List.mem_cons, not_or, not_or]
    exact ⟨hfront, by decide, hquery⟩
  exact List.takeWhile_eq_self_iff.mpr (bne_of_notMem hnone)

theorem queryOf_separator {front : List Char} (h : Inert front) {query : List Char}
    (hquery : '#' ∉ query) : queryOf (front ++ '?' :: query) = some query := by
  unfold queryOf
  rw [beforeFragment_separator h.2 hquery, cutQuery_separator h.1]

/-! ## Every form of a target -/

variable {cs : List Char} {uri : Uri}

theorem query_of_withTarget? {scheme authority : Option String}
    (h : withTarget? scheme authority cs = some uri) :
    uri.query = (queryOf cs).map String.ofList := by
  simp only [withTarget?] at h
  split at h
  · obtain rfl := Option.some.inj h
    rfl
  · cases h

theorem inert_takeWhile {p : Char → Bool} (hquery : p '?' = false) (hfragment : p '#' = false)
    (cs : List Char) : Inert (cs.takeWhile p) := by
  constructor
  · intro h
    rw [List.mem_takeWhile_imp h] at hquery
    cases hquery
  · intro h
    rw [List.mem_takeWhile_imp h] at hfragment
    cases hfragment

/-- A scheme and what is behind it are cut off from the query. -/
theorem queryOf_cutScheme {scheme : String} {rest : List Char}
    (h : cutScheme cs = some (scheme, rest)) : queryOf cs = queryOf rest := by
  unfold cutScheme at h
  split at h
  · next hdrop =>
    obtain ⟨-, rfl⟩ := Prod.mk.inj (Option.some.inj h)
    rw [← List.takeWhile_append_dropWhile (p := isSchemeChar) (l := cs), hdrop,
      queryOf_append (inert_takeWhile (by decide) (by decide) cs)]
    have hslashes : Inert [':', '/', '/'] := by decide
    exact queryOf_append hslashes _
  · cases h

theorem query_of_absolute? {scheme : String} (h : absolute? scheme cs = some uri) :
    uri.query = (queryOf cs).map String.ofList := by
  have hauthority : Inert (cs.takeWhile (!endsAuthority ·)) :=
    inert_takeWhile (by decide) (by decide) cs
  simp only [absolute?] at h
  split at h
  · rw [query_of_withTarget? h, ← queryOf_append hauthority, List.takeWhile_append_dropWhile]
  · cases h

/-- The query of a target is where it stands in the text, whatever the form of the target. -/
theorem query_of_parse? {text : String} (h : parse? text = some uri) :
    uri.query = (queryOf text.toList).map String.ofList := by
  unfold parse? at h
  -- too long, a star, nothing, a path, behind a scheme, an authority alone
  split at h
  · cases h
  split at h
  · next hstar =>
    cases h
    rw [hstar]
    rfl
  split at h
  · cases h
  · next rest htext =>
    rw [htext]
    exact query_of_withTarget? h
  · split at h
    · next hscheme => rw [query_of_absolute? h, queryOf_cutScheme hscheme]
    · split at h
      · next hauthority =>
        simp only [Bool.and_eq_true, Bool.not_eq_true', List.any_eq_false] at hauthority
        have hinert : Inert text.toList :=
          ⟨fun h => hauthority.1 _ h rfl, fun h => hauthority.1 _ h rfl⟩
        obtain rfl := Option.some.inj h
        rw [queryOf_of_inert hinert]
        rfl
      · cases h

/-! ## Pairs behind a question mark -/

/-- The target has the pairs behind its first question mark, in one of the ways to write them. -/
def Carries (uri : Uri) (pairs : List (String × String)) : Prop :=
  ∃ front written : String, Inert front.toList ∧ '#' ∉ written.toList ∧
    Form.Writes pairs (Utf8.encode written) ∧ parse? (front ++ "?" ++ written) = some uri

theorem toList_target (front written : String) :
    (front ++ "?" ++ written).toList = front.toList ++ '?' :: written.toList := by
  rw [String.toList_append, String.toList_append, List.append_assoc]
  rfl

theorem Carries.ofUri {pairs : List (String × String)} (h : uri.Carries pairs) :
    Query.ofUri uri = Query.ofPairs pairs := by
  obtain ⟨front, written, hfront, hwritten, hpairs, hparse⟩ := h
  have hquery : uri.query = some written := by
    rw [query_of_parse? hparse, toList_target, queryOf_separator hfront hwritten, Option.map_some,
      String.ofList_toList]
  apply Form.ofUri_of_writes
  rwa [hquery, Option.getD_some]

/-! ## There is a target -/

theorem inert_of_all_isPathChar {cs : List Char} (h : cs.all isPathChar = true) : Inert cs := by
  rw [List.all_eq_true] at h
  exact ⟨fun hmem => absurd (h _ hmem) (by decide), fun hmem => absurd (h _ hmem) (by decide)⟩

/-- Any pairs can stand behind a path, if they are not too many. -/
theorem carries_text (path : String) {rest : List Char} (hslash : path.toList = '/' :: rest)
    (hpath : path.toList.all isPathChar = true) (pairs : List (String × String))
    (hlength : (path ++ "?" ++ Form.text pairs).utf8ByteSize ≤ maxLength) :
    Carries ⟨none, none, path, some (Form.text pairs)⟩ pairs := by
  have hfront : Inert path.toList := inert_of_all_isPathChar hpath
  have hchars := Form.all_isQueryChar_text pairs
  have hquery : '#' ∉ (Form.text pairs).toList := fun hmem =>
    absurd (List.all_eq_true.mp hchars _ hmem) (by decide)
  have htext := toList_target path (Form.text pairs)
  have hstar : path ++ "?" ++ Form.text pairs ≠ "*" := by
    intro heq
    rw [heq, hslash] at htext
    exact absurd (List.cons.inj htext).1 (by decide)
  have hnonempty : path.toList.isEmpty = false := by
    rw [hslash]
    rfl
  have htarget : withTarget? none none (path.toList ++ '?' :: (Form.text pairs).toList) =
      some ⟨none, none, path, some (Form.text pairs)⟩ := by
    unfold withTarget?
    rw [beforeFragment_separator hfront.2 hquery, cutQuery_separator hfront.1]
    simp only [hpath, hchars, hnonempty, Option.getD_some, Option.map_some, Bool.and_self, if_true,
      Bool.false_eq_true, if_false, String.ofList_toList]
  refine ⟨path, Form.text pairs, hfront, hquery, Form.writes_text pairs, ?_⟩
  unfold parse?
  rw [if_neg (Nat.not_lt.mpr hlength), if_neg hstar, htext]
  rw [hslash] at htarget ⊢
  exact htarget

end Uri

/-! ## The theorem -/

/-- **How a query is written makes no difference.** What is read of a target are the named values
of the pairs that it carries, however they are written there. So requests that differ in targets
with the same pairs have the same outcome, under any rules. -/
theorem check_of_carries :
    (∀ (uri : Uri) (pairs : List (String × String)), uri.Carries pairs →
      Query.ofUri uri = Query.ofPairs pairs) ∧
    ∀ (uri uri' : Uri) (pairs : List (String × String)), uri.Carries pairs → uri'.Carries pairs →
      ∀ (table : Rules.Table) (request : Request) (body : Option Json),
        table.check (Guard.descriptor { request with uri := uri } body) =
          table.check (Guard.descriptor { request with uri := uri' } body) := by
  refine ⟨fun uri pairs h => h.ofUri, fun uri uri' pairs h h' table request body => ?_⟩
  unfold Guard.descriptor
  simp only [h.ofUri, h'.ofUri]

/-- Two pairs, one with a bracketed key and a space, one with an equals sign. -/
def itemPairs : List (String × String) :=
  [("tag[]", "a b"), ("q", "=")]

/-- A target that has only letters and digits of its pairs as they are. -/
def escapedTarget : Uri :=
  ⟨none, none, "/items", some "tag%5B%5D=a+b&q=%3D"⟩

/-- A target that has all of its pairs but the space as they are, and empty pieces around them. -/
def plainTarget : Uri :=
  ⟨some "http", some "host", "/items", some "&tag[]=a%20b&&q==&"⟩

theorem carries_escapedTarget : escapedTarget.Carries itemPairs := by
  have htext : Form.text itemPairs = "tag%5B%5D=a+b&q=%3D" := by decide
  have hcarries := Uri.carries_text "/items" rfl (by decide) itemPairs
  rw [htext] at hcarries
  exact hcarries (by decide)

theorem carries_plainTarget : plainTarget.Carries itemPairs := by
  have hspace : Form.WritesByte ' '.toUInt8 ['%'.toUInt8, '2'.toUInt8, '0'.toUInt8] :=
    .escape (h := 2) (l := 0) (by decide) (by decide)
  have hb : Form.WritesBytes ['b'.toUInt8] ['b'.toUInt8] :=
    Form.writesBytes_self (by decide) (by decide) (by decide)
  have hvalue : Form.WritesBytes (Utf8.encode "a b") (Utf8.encode "a%20b") := by
    have hbytes : Utf8.encode "a b" = 'a'.toUInt8 :: ' '.toUInt8 :: ['b'.toUInt8] := by decide
    have hwritten : Utf8.encode "a%20b" =
        ['a'.toUInt8] ++ (['%'.toUInt8, '2'.toUInt8, '0'.toUInt8] ++ ['b'.toUInt8]) := by decide
    rw [hbytes, hwritten]
    exact .cons (.plain (by decide) (by decide) (by decide)) (.cons hspace hb)
  have hself : ∀ text ∈ ["tag[]", "q", "="],
      Form.WritesBytes (Utf8.encode text) (Utf8.encode text) := by
    intro text htext
    simp only [List.mem_cons, List.not_mem_nil, or_false] at htext
    rcases htext with rfl | rfl | rfl <;>
      exact Form.writesBytes_self (by decide) (by decide) (by decide)
  have htag : Form.WritesPair ("tag[]", "a b") (Utf8.encode "tag[]=a%20b") :=
    ⟨_, _, hself "tag[]" (by simp), hvalue, by decide, by decide⟩
  have hq : Form.WritesPair ("q", "=") (Utf8.encode "q==") :=
    ⟨_, _, hself "q" (by simp), hself "=" (by simp), by decide, by decide⟩
  let pieces := ["", "tag[]=a%20b", "", "q==", ""].map Utf8.encode
  have hwrites : Form.Writes itemPairs (Utf8.encode "&tag[]=a%20b&&q==&") :=
    ⟨pieces, by decide, .cons htag (.cons hq .nil)⟩
  exact ⟨"http://host/items", "&tag[]=a%20b&&q==&", by decide, by decide, hwrites, by decide⟩

/-- Rules for one of the two names. -/
def itemRules : Rules.Table :=
  Rules.Table.empty.insert "/items" "get" ⟨[.query "tag" (.array .string)]⟩

/-- The second target is read as the first one, and is rejected for the same name. -/
theorem check_plainTarget :
    Query.ofUri plainTarget = [("tag", .array [.string "a b"]), ("q", .string "=")] ∧
    itemRules.check (Guard.descriptor ⟨"GET", plainTarget, escapedTarget, [], []⟩ none) =
      .rejected (.unknownQueryParameter "q") := by
  have hread := check_of_carries.1 plainTarget itemPairs carries_plainTarget
  have hchecked := check_of_carries.2 plainTarget escapedTarget itemPairs carries_plainTarget
    carries_escapedTarget itemRules ⟨"GET", escapedTarget, escapedTarget, [], []⟩ none
  exact ⟨hread.trans rfl, hchecked.trans (by decide)⟩

end Gatehouse.Http
