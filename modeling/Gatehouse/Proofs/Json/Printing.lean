import Gatehouse.Json.Printer
import Gatehouse.Proofs.Json.NoContent
/-!
What is printed reads back.

A string is printed character by character, and each character is read from what it was printed as,
whether it is escaped or not; so any text at all is read back from between its quotes:

    readString (what is printed of s and the closing quote, then rest) = (s, rest)
                                                                    (readString_printed)

`ReadsBack depth v` says that a value is read back where it stands in an object. It is passed on from
the values of an object to the object, if no name is there twice (`readValue_printed`).
-/

namespace Gatehouse.Json

/-- The bytes of characters. -/
def bytesOf (cs : List Char) : List UInt8 :=
  cs.flatMap Utf8.encodeChar

@[simp] theorem bytesOf_nil : bytesOf [] = [] := rfl

@[simp] theorem bytesOf_cons (c : Char) (cs : List Char) :
    bytesOf (c :: cs) = Utf8.encodeChar c ++ bytesOf cs := rfl

@[simp] theorem bytesOf_append (cs ds : List Char) : bytesOf (cs ++ ds) = bytesOf cs ++ bytesOf ds :=
  List.flatMap_append

theorem encode_text_eq (value : Json) : Utf8.encode value.text = bytesOf value.render := by
  unfold text Utf8.encode
  rw [String.toList_ofList]
  rfl

/-! ## Strings: one character -/

/-- A character is escaped by a letter, or by four digits, or not at all. -/
theorem escapeChar_cases (c : Char) :
    (∃ letter x, escapeChar c = ['\\', letter] ∧ Utf8.encodeChar letter = [letter.toUInt8] ∧
      shortEscape? letter.toUInt8 = some x ∧ Utf8.encodeChar c = [x]) ∨
    (c.toNat < 0x20 ∧ escapeChar c = '\\' :: 'u' :: Hex.padded 4 c.toNat) ∨
    (0x20 ≤ c.toNat ∧ c ≠ '"' ∧ c ≠ '\\' ∧ escapeChar c = [c]) := by
  unfold escapeChar
  split
  · exact .inl ⟨'"', _, rfl, rfl, rfl, rfl⟩
  · exact .inl ⟨'\\', _, rfl, rfl, rfl, rfl⟩
  · exact .inl ⟨'b', _, rfl, rfl, rfl, rfl⟩
  · exact .inl ⟨'f', _, rfl, rfl, rfl, rfl⟩
  · exact .inl ⟨'n', _, rfl, rfl, rfl, rfl⟩
  · exact .inl ⟨'r', _, rfl, rfl, rfl, rfl⟩
  · exact .inl ⟨'t', _, rfl, rfl, rfl, rfl⟩
  · next hquote hbackslash _ _ _ _ _ =>
    by_cases hlow : c.toNat < 0x20
    · exact .inr (.inl ⟨hlow, if_pos hlow⟩)
    · exact .inr (.inr ⟨by omega, hquote, hbackslash, if_neg hlow⟩)

/-- Four digits are four bytes. -/
theorem bytesOf_padded (n : Nat) :
    bytesOf (Hex.padded 4 n) =
      [n / 16 / 16 / 16 % 16, n / 16 / 16 % 16, n / 16 % 16, n % 16].map fun k =>
        UInt8.ofNat (Hex.digit k).toNat := by
  have hencode : ∀ k, k < 16 → Utf8.encodeChar (Hex.digit k) = [UInt8.ofNat (Hex.digit k).toNat] := by
    decide
  have hdigit : ∀ m, Utf8.encodeChar (Hex.digit (m % 16)) =
      [UInt8.ofNat (Hex.digit (m % 16)).toNat] := fun m => hencode _ (Nat.mod_lt _ (by omega))
  simp only [Hex.padded, List.nil_append, List.cons_append, bytesOf_cons, bytesOf_nil, hdigit,
    List.map_cons, List.map_nil]

/-- The four digits of a number are read back. -/
theorem fourHex_padded {n : Nat} (h : n < 65536) (rest : List UInt8) :
    fourHex (bytesOf (Hex.padded 4 n) ++ rest) = .ok n := by
  have hdigit : ∀ m, Hex.value? (UInt8.ofNat (Hex.digit (m % 16)).toNat) = some (m % 16) := fun m =>
    Hex.value?_digit _ (Nat.mod_lt _ (by omega))
  rw [bytesOf_padded]
  simp only [List.map_cons, List.map_nil, List.cons_append, List.nil_append, fourHex, hdigit]
  congr 1
  omega

/-- A character that is not escaped has bytes of its own. -/
theorem mem_encodeChar_plain {c : Char} (h : 0x20 ≤ c.toNat) (hquote : c ≠ '"')
    (hbackslash : c ≠ '\\') {b : UInt8} (hb : b ∈ Utf8.encodeChar c) :
    b ≠ '"'.toUInt8 ∧ b ≠ '\\'.toUInt8 ∧ ¬b < 0x20 := by
  have hne : ∀ d : Char, c ≠ d → c.toNat ≠ d.toNat := fun d hd heq => hd (Char.toNat_inj.mp heq)
  have hquote' : c.toNat ≠ 0x22 := hne '"' hquote
  have hbackslash' : c.toNat ≠ 0x5C := hne '\\' hbackslash
  have hbyte := Utf8.mem_encodeChar hb
  refine ⟨?_, ?_, ?_⟩
  · rintro rfl
    have : '"'.toUInt8.toNat = 0x22 := rfl
    omega
  · rintro rfl
    have : '\\'.toUInt8.toNat = 0x5C := rfl
    omega
  · intro hlt
    have : b.toNat < 0x20 := UInt8.lt_iff_toNat_lt.mp hlt
    omega

/-! ## Strings: reading on -/

theorem stringFrom_plain {front : List UInt8}
    (h : ∀ b ∈ front, b ≠ '"'.toUInt8 ∧ b ≠ '\\'.toUInt8 ∧ ¬b < 0x20) (acc rest : List UInt8) :
    stringFrom 0 acc (front ++ rest) = stringFrom 0 (front.reverse ++ acc) rest := by
  induction front generalizing acc with
  | nil => rfl
  | cons b front ih =>
    obtain ⟨hquote, hbackslash, hlow⟩ := h b List.mem_cons_self
    rw [List.cons_append, stringFrom, if_neg hquote, if_neg hbackslash, if_neg hlow,
      ih fun c hc => h c (List.mem_cons_of_mem _ hc)]
    simp

/-- The bytes of an escape that was read are passed over. -/
theorem stringFrom_skip (front acc rest : List UInt8) :
    stringFrom front.length acc (front ++ rest) = stringFrom 0 acc rest := by
  induction front with
  | nil => rfl
  | cons b front ih =>
    show stringFrom (front.length + 1) acc (b :: (front ++ rest)) = _
    rw [stringFrom, ih]

theorem stringFrom_escape {front content rest : List UInt8}
    (h : escape (front ++ rest) = .ok (content, front.length)) (acc : List UInt8) :
    stringFrom 0 acc ('\\'.toUInt8 :: (front ++ rest)) =
      stringFrom 0 (content.reverse ++ acc) rest := by
  rw [stringFrom, if_neg (by decide), if_pos rfl, h]
  exact stringFrom_skip front _ rest

/-- A character is read from what it is printed as. -/
theorem stringFrom_escapeChar (c : Char) (acc rest : List UInt8) :
    stringFrom 0 acc (bytesOf (escapeChar c) ++ rest) =
      stringFrom 0 ((Utf8.encodeChar c).reverse ++ acc) rest := by
  rcases escapeChar_cases c with ⟨letter, x, hc, hletter, hshort, hx⟩ | ⟨hlow, hc⟩ |
    ⟨hlow, hquote, hbackslash, hc⟩
  · have hbytes : bytesOf (escapeChar c) = '\\'.toUInt8 :: [letter.toUInt8] := by
      rw [hc, bytesOf_cons, bytesOf_cons, hletter]
      rfl
    have hescape : escape ([letter.toUInt8] ++ rest) = .ok ([x], [letter.toUInt8].length) := by
      simp only [List.cons_append, List.nil_append, escape, hshort, List.length_singleton]
    rw [hbytes, List.cons_append, stringFrom_escape hescape, hx]
  · have hbytes : bytesOf (escapeChar c) =
        '\\'.toUInt8 :: ('u'.toUInt8 :: bytesOf (Hex.padded 4 c.toNat)) := by
      rw [hc, bytesOf_cons, bytesOf_cons]
      rfl
    have hlength : (bytesOf (Hex.padded 4 c.toNat)).length = 4 := by
      rw [bytesOf_padded]
      rfl
    have hescape : escape (('u'.toUInt8 :: bytesOf (Hex.padded 4 c.toNat)) ++ rest) =
        .ok (Utf8.encodeChar c, ('u'.toUInt8 :: bytesOf (Hex.padded 4 c.toNat)).length) := by
      have hnone : shortEscape? 'u'.toUInt8 = none := by decide
      have hfour := fourHex_padded (by omega : c.toNat < 65536) rest
      have hsurrogate : ¬(0xDC00 ≤ c.toNat ∧ c.toNat ≤ 0xDFFF) := by omega
      have hsurrogate' : ¬(0xD800 ≤ c.toNat ∧ c.toNat ≤ 0xDBFF) := by omega
      simp only [List.cons_append, escape, hnone, if_true, hfour, if_neg hsurrogate,
        if_neg hsurrogate', Char.ofNat_toNat, List.length_cons, hlength]
    rw [hbytes, List.cons_append, stringFrom_escape hescape]
  · rw [hc, bytesOf_cons, bytesOf_nil, List.append_nil]
    exact stringFrom_plain (fun b => mem_encodeChar_plain hlow hquote hbackslash) acc rest

/-- **A string reads back**, whatever its characters are and whatever stands behind it. -/
theorem readString_printed (s : String) (rest : List UInt8) :
    readString (bytesOf (s.toList.flatMap escapeChar) ++ '"'.toUInt8 :: rest) = .ok (s, rest) := by
  have hread : ∀ (cs : List Char) (acc : List UInt8),
      stringFrom 0 acc (bytesOf (cs.flatMap escapeChar) ++ '"'.toUInt8 :: rest) =
        closeString (acc.reverse ++ bytesOf cs) rest := by
    intro cs
    induction cs with
    | nil =>
      intro acc
      rw [bytesOf_nil, List.append_nil]
      rfl
    | cons c cs ih =>
      intro acc
      rw [List.flatMap_cons, bytesOf_append, List.append_assoc, stringFrom_escapeChar, ih,
        List.reverse_append, List.reverse_reverse, List.append_assoc, bytesOf_cons]
  unfold readString
  rw [hread]
  show closeString (Utf8.encode s) rest = _
  unfold closeString
  rw [Utf8.decode?_encode]

/-! ## Values -/

/-- What can stand behind the value of a field: a comma or the closing brace. -/
inductive Ends : List UInt8 → Prop
  | comma (rest : List UInt8) : Ends (','.toUInt8 :: rest)
  | brace (rest : List UInt8) : Ends ('\x7d'.toUInt8 :: rest)

/-- The value is read from what it is printed as, as the value of a field. -/
def ReadsBack (depth : Nat) (value : Json) : Prop :=
  ∀ rest, Ends rest → readValue depth (bytesOf value.render ++ rest) = .ok (value, rest)

theorem bytesOf_renderString (s : String) (rest : List UInt8) :
    bytesOf (renderString s) ++ rest =
      '"'.toUInt8 :: (bytesOf (s.toList.flatMap escapeChar) ++ '"'.toUInt8 :: rest) := by
  unfold renderString
  rw [bytesOf_cons, bytesOf_append, bytesOf_cons, bytesOf_nil]
  simp only [List.append_assoc]
  rfl

theorem readsBack_string (depth : Nat) (s : String) : ReadsBack depth (.string s) := by
  intro rest _
  have hread : ∀ list object tail,
      readWith list object ('"'.toUInt8 :: tail) = mapRead .string readString tail :=
    fun _ _ _ => rfl
  have hvalue : ∀ tail, readValue depth ('"'.toUInt8 :: tail) = mapRead .string readString tail := by
    intro tail
    cases depth <;> rw [readValue, hread]
  rw [render, bytesOf_renderString, hvalue]
  exact mapRead_eq_ok_iff.mpr ⟨s, readString_printed s rest, rfl⟩

/-! ## Objects -/

/-- What is printed of a field. -/
def renderField (field : String × Json) : List Char :=
  renderString field.1 ++ ':' :: field.2.render

/-- Fields are printed one after the other, each but the first behind a comma. -/
theorem renderFields_cons (field : String × Json) (fields : List (String × Json)) :
    renderFields (field :: fields) =
      renderField field ++ fields.flatMap fun other => ',' :: renderField other := by
  induction fields generalizing field with
  | nil =>
    rw [renderFields, List.flatMap_nil, List.append_nil]
    rfl
  | cons other fields ih =>
    rw [renderFields, ih other, List.flatMap_cons]
    · unfold renderField
      simp only [List.append_assoc, List.cons_append]
    · exact List.cons_ne_nil _ _

/-- What is printed of more fields and the closing brace. -/
def tailBytes (fields : List (String × Json)) (rest : List UInt8) : List UInt8 :=
  bytesOf (fields.flatMap fun other => ',' :: renderField other) ++ '\x7d'.toUInt8 :: rest

theorem ends_tailBytes (fields : List (String × Json)) (rest : List UInt8) :
    Ends (tailBytes fields rest) := by
  cases fields with
  | nil => exact .brace rest
  | cons field fields => exact .comma _

theorem tailBytes_cons (field : String × Json) (fields : List (String × Json))
    (rest : List UInt8) :
    tailBytes (field :: fields) rest =
      ','.toUInt8 :: (bytesOf (renderField field) ++ tailBytes fields rest) := by
  unfold tailBytes
  rw [List.flatMap_cons, List.cons_append, bytesOf_cons, bytesOf_append]
  simp only [List.append_assoc]
  rfl

variable {depth turns : Nat} {first : Bool} {before fields : List (String × Json)}
  {field : String × Json} {bytes rest : List UInt8}

/-- One field that is printed is read. -/
theorem readFields_renderField (hread : ReadsBack depth field.2) (hrest : Ends rest)
    (hnew : field.1 ∉ Fields.names before)
    (hnext : nextKey first bytes = .ok (.more
      (bytesOf (field.1.toList.flatMap escapeChar) ++ '"'.toUInt8 :: ':'.toUInt8 ::
        (bytesOf field.2.render ++ rest)))) :
    readFields (putField (readValue depth)) (turns + 1) first before bytes =
      readFields (putField (readValue depth)) turns false (before ++ [field]) rest := by
  have hcolon : ∀ tail, skipColon (':'.toUInt8 :: tail) = .ok tail := fun _ => rfl
  simp only [readFields, hnext, readString_printed, putField, hcolon, hread rest hrest,
    Fields.put_of_not_mem hnew]

theorem bytesOf_renderField (field : String × Json) (rest : List UInt8) :
    bytesOf (renderField field) ++ rest =
      '"'.toUInt8 :: (bytesOf (field.1.toList.flatMap escapeChar) ++ '"'.toUInt8 ::
        ':'.toUInt8 :: (bytesOf field.2.render ++ rest)) := by
  unfold renderField
  rw [bytesOf_append, List.append_assoc, bytesOf_renderString, bytesOf_cons]
  rfl

/-- More fields are read up to behind the brace. -/
theorem readFields_tailBytes (hread : ∀ f ∈ fields, ReadsBack depth f.2)
    (hnames : (Fields.names (before ++ fields)).Nodup) (hturns : fields.length < turns) :
    readFields (putField (readValue depth)) turns false before (tailBytes fields rest) =
      .ok (before ++ fields, rest) := by
  induction fields generalizing before turns with
  | nil =>
    obtain ⟨turns, rfl⟩ := Nat.exists_eq_succ_of_ne_zero (Nat.ne_of_gt hturns)
    rw [List.append_nil]
    rfl
  | cons field fields ih =>
    obtain ⟨turns, rfl⟩ := Nat.exists_eq_succ_of_ne_zero (Nat.ne_zero_of_lt hturns)
    have hnew : field.1 ∉ Fields.names before := fun hmem => by
      unfold Fields.names at hnames hmem
      rw [List.map_append, List.nodup_append] at hnames
      exact hnames.2.2 _ hmem _ List.mem_cons_self rfl
    have hnext : nextKey false (tailBytes (field :: fields) rest) = .ok (.more
        (bytesOf (field.1.toList.flatMap escapeChar) ++ '"'.toUInt8 :: ':'.toUInt8 ::
          (bytesOf field.2.render ++ tailBytes fields rest))) := by
      rw [tailBytes_cons, bytesOf_renderField]
      rfl
    have hassoc : before ++ field :: fields = before ++ [field] ++ fields := by simp
    rw [readFields_renderField (hread field List.mem_cons_self) (ends_tailBytes fields rest) hnew
      hnext, hassoc]
    rw [hassoc] at hnames
    exact ih (fun f hf => hread f (List.mem_cons_of_mem _ hf)) hnames (Nat.lt_of_succ_lt_succ hturns)

theorem length_le_tailBytes (fields : List (String × Json)) (rest : List UInt8) :
    fields.length ≤ (tailBytes fields rest).length := by
  induction fields with
  | nil => exact Nat.zero_le _
  | cons field fields ih =>
    rw [tailBytes_cons, List.length_cons, List.length_cons, List.length_append]
    omega

/-- **An object reads back** if its values do and no name is there twice. -/
theorem readValue_printed (hread : ∀ f ∈ fields, ReadsBack depth f.2)
    (hnames : (Fields.names fields).Nodup) :
    readValue (depth + 1) (bytesOf (render (.object fields)) ++ rest) =
      .ok (.object fields, rest) := by
  cases fields with
  | nil => rfl
  | cons field fields =>
    have hbytes : bytesOf (render (.object (field :: fields))) ++ rest =
        '\x7b'.toUInt8 :: (bytesOf (renderField field) ++ tailBytes fields rest) := by
      unfold tailBytes
      rw [render, renderFields_cons]
      simp only [bytesOf_cons, bytesOf_append, bytesOf_nil, List.append_assoc]
      rfl
    have hbrace : ∀ tail, readValue (depth + 1) ('\x7b'.toUInt8 :: tail) =
        mapRead .object (readObject (putField (readValue depth)) []) tail := fun _ => rfl
    have hturns : fields.length <
        (bytesOf (renderField field) ++ tailBytes fields rest).length := by
      have hlength := length_le_tailBytes fields rest
      rw [bytesOf_renderField, List.length_cons, List.length_append, List.length_cons,
        List.length_cons, List.length_append]
      omega
    have htail : readFields (putField (readValue depth)) _ false ([] ++ [field])
        (tailBytes fields rest) = .ok ([field] ++ fields, rest) :=
      readFields_tailBytes (fun f hf => hread f (List.mem_cons_of_mem _ hf)) hnames hturns
    rw [hbytes, hbrace, mapRead_eq_ok_iff]
    refine ⟨field :: fields, ?_, rfl⟩
    unfold readObject
    rw [readFields_renderField (hread field List.mem_cons_self) (ends_tailBytes fields rest)
      List.not_mem_nil (by rw [bytesOf_renderField]; rfl), htail]
    rfl

end Gatehouse.Json
