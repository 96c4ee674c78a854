import Gatehouse.Json.Reader
import Gatehouse.Proofs.Check.FirstViolation
import Gatehouse.Proofs.Text.Encoding
import Mathlib.Data.List.TakeWhile
/-!
The JSON texts of values without content.

`null`, `{}`, `[]` and `""` can have blanks around them, and the two pairs of brackets also inside.
There is no other way to write these values: no escape stands for nothing, and a list or an object
with anything in it is not empty.

    parseBytes bytes = .ok value  ↔  blanks, what spells the value, blanks
                                     for a value without content         (parseBytes_noContent_iff)
-/

namespace Gatehouse.Json

/-! ## Spelling -/

/-- Spaces, ends of lines and tabs. -/
def Blanks (bytes : List UInt8) : Prop :=
  ∀ b ∈ bytes, b = ' '.toUInt8 ∨ b = '\n'.toUInt8 ∨ b = '\t'.toUInt8 ∨ b = '\r'.toUInt8

/-- What a value without content is written as, from its first byte to its last. -/
inductive Spells : List UInt8 → Json → Prop
  | null : Spells ['n'.toUInt8, 'u'.toUInt8, 'l'.toUInt8, 'l'.toUInt8] .null
  | object {inner : List UInt8} : Blanks inner →
      Spells ('\x7b'.toUInt8 :: (inner ++ ['\x7d'.toUInt8])) (.object [])
  | array {inner : List UInt8} : Blanks inner →
      Spells ('['.toUInt8 :: (inner ++ [']'.toUInt8])) (.array [])
  | string : Spells ['"'.toUInt8, '"'.toUInt8] (.string "")

/-! ## Lemmas: blanks -/

theorem isBlankByte_iff {b : UInt8} :
    isBlankByte b = true ↔
      b = ' '.toUInt8 ∨ b = '\n'.toUInt8 ∨ b = '\t'.toUInt8 ∨ b = '\r'.toUInt8 := by
  unfold isBlankByte
  simp only [Bool.or_eq_true, beq_iff_eq, or_assoc]
  exact Iff.rfl

theorem skipBlanks_append {blanks : List UInt8} (h : Blanks blanks) (rest : List UInt8) :
    skipBlanks (blanks ++ rest) = skipBlanks rest :=
  List.dropWhile_append_of_pos fun b hb => isBlankByte_iff.mpr (h b hb)

theorem skipBlanks_eq_nil_iff {bytes : List UInt8} : skipBlanks bytes = [] ↔ Blanks bytes := by
  unfold skipBlanks Blanks
  simp only [List.dropWhile_eq_nil_iff, isBlankByte_iff]

theorem skipBlanks_eq_cons_iff {bytes rest : List UInt8} {b : UInt8} (hb : isBlankByte b = false) :
    skipBlanks bytes = b :: rest ↔ ∃ blanks, Blanks blanks ∧ bytes = blanks ++ b :: rest := by
  constructor
  · intro h
    refine ⟨bytes.takeWhile isBlankByte, fun c hc => ?_, ?_⟩
    · exact isBlankByte_iff.mp (List.mem_takeWhile_imp hc)
    · rw [← h]
      exact List.takeWhile_append_dropWhile.symm
  · rintro ⟨blanks, hblanks, rfl⟩
    rw [skipBlanks_append hblanks]
    exact List.dropWhile_cons_of_neg (by simp [hb])

/-! ## Lemmas: words and strings -/

theorem readWord_eq_ok_iff {expected : List Char} {bytes rest : List UInt8} :
    readWord expected bytes = .ok rest ↔ bytes = expected.map Char.toUInt8 ++ rest := by
  induction expected generalizing bytes with
  | nil => simp [readWord]
  | cons c expected ih =>
    cases bytes with
    | nil => simp [readWord]
    | cons b bytes =>
      unfold readWord
      split
      · next hb => simp [hb, ih]
      · next hb => simp [hb]

/-- An escape stands for something. -/
theorem ne_nil_of_escape {bytes content : List UInt8} {used : Nat}
    (h : escape bytes = .ok (content, used)) : content ≠ [] := by
  unfold escape at h
  split at h
  · cases h
  split at h
  · -- one letter
    cases h
    exact List.cons_ne_nil _ _
  split at h
  · -- four digits, and four more where they are the first half of a pair
    split at h
    · cases h
    split at h
    · cases h
    split at h
    · split at h
      · cases h
      · obtain ⟨rfl, -⟩ := Prod.mk.inj (Except.ok.inj h)
        exact Utf8.encodeChar_ne_nil _
    · obtain ⟨rfl, -⟩ := Prod.mk.inj (Except.ok.inj h)
      exact Utf8.encodeChar_ne_nil _
  · cases h

/-- A string that has content so far is not empty. -/
theorem ne_empty_of_stringFrom {skip : Nat} {acc bytes rest : List UInt8} {s : String}
    (hacc : acc ≠ []) (h : stringFrom skip acc bytes = .ok (s, rest)) : s ≠ "" := by
  induction bytes generalizing skip acc with
  | nil => cases h
  | cons b bytes ih =>
    cases skip with
    | succ skip => exact ih hacc h
    | zero =>
      rw [stringFrom] at h
      -- the closing quote, an escape, a control character, a byte of the content
      split at h
      · unfold closeString at h
        split at h
        · next hdecode =>
          cases h
          rintro rfl
          exact hacc (List.reverse_eq_nil_iff.mp (Utf8.decode?_eq_some_empty_iff.mp hdecode))
        · cases h
      split at h
      · split at h
        · cases h
        · next hescape =>
          refine ih ?_ h
          simp [ne_nil_of_escape hescape]
      split at h
      · cases h
      · exact ih (List.cons_ne_nil _ _) h

/-- The empty string is a closing quote and nothing before it. -/
theorem readString_eq_empty_iff {bytes rest : List UInt8} :
    readString bytes = .ok ("", rest) ↔ bytes = '"'.toUInt8 :: rest := by
  constructor
  · intro h
    cases bytes with
    | nil => cases h
    | cons b bytes =>
      rw [readString, stringFrom] at h
      split at h
      · next hquote =>
        cases h
        rw [hquote]
      split at h
      · split at h
        · cases h
        · next hescape =>
          refine absurd rfl (ne_empty_of_stringFrom ?_ h)
          simp [ne_nil_of_escape hescape]
      split at h
      · cases h
      · exact absurd rfl (ne_empty_of_stringFrom (List.cons_ne_nil _ _) h)
  · rintro rfl
    rfl

/-! ## Lemmas: lists and objects -/

section

variable {σ : Type} (fromItem : σ → Prop) {turns : Nat} {first : Bool} {state state' : σ}
  {bytes rest : List UInt8}

/-- A list is closed at once, or what is read comes from its last item. -/
theorem readItems_cases {item : σ → Reader σ}
    (hitem : ∀ state bytes state' rest, item state bytes = .ok (state', rest) → fromItem state')
    (h : readItems item turns first state bytes = .ok (state', rest)) :
    (nextItem first bytes = .ok (.closed rest) ∧ state' = state) ∨ fromItem state' := by
  induction turns generalizing first state bytes with
  | zero => cases h
  | succ turns ih =>
    simp only [readItems] at h
    split at h
    · cases h
    · next hclosed =>
      cases h
      exact .inl ⟨hclosed, rfl⟩
    · split at h
      · cases h
      · next hread =>
        rcases ih h with ⟨-, rfl⟩ | hfrom
        · exact .inr (hitem _ _ _ _ hread)
        · exact .inr hfrom

/-- An object is closed at once, or what is read comes from its last field. -/
theorem readFields_cases {field : σ → String → Reader σ}
    (hfield : ∀ state key bytes state' rest, field state key bytes = .ok (state', rest) →
      fromItem state')
    (h : readFields field turns first state bytes = .ok (state', rest)) :
    (nextKey first bytes = .ok (.closed rest) ∧ state' = state) ∨ fromItem state' := by
  induction turns generalizing first state bytes with
  | zero => cases h
  | succ turns ih =>
    simp only [readFields] at h
    split at h
    · cases h
    · next hclosed =>
      cases h
      exact .inl ⟨hclosed, rfl⟩
    · split at h
      · cases h
      · split at h
        · cases h
        · next hread =>
          rcases ih h with ⟨-, rfl⟩ | hfrom
          · exact .inr (hfield _ _ _ _ _ hread)
          · exact .inr hfrom

end

/-- A list is closed at once iff nothing but blanks stands before its bracket. -/
theorem nextItem_closed_iff {bytes rest : List UInt8} :
    nextItem true bytes = .ok (.closed rest) ↔
      ∃ inner, Blanks inner ∧ bytes = inner ++ ']'.toUInt8 :: rest := by
  rw [← skipBlanks_eq_cons_iff (by decide)]
  unfold nextItem
  constructor
  · intro h
    split at h
    · cases h
    · next hskip =>
      split at h
      · next hclose =>
        cases h
        rw [hskip, hclose]
      · cases h
  · intro h
    rw [h]
    rfl

theorem nextKey_closed_iff {bytes rest : List UInt8} :
    nextKey true bytes = .ok (.closed rest) ↔
      ∃ inner, Blanks inner ∧ bytes = inner ++ '\x7d'.toUInt8 :: rest := by
  rw [← skipBlanks_eq_cons_iff (by decide)]
  unfold nextKey
  constructor
  · intro h
    split at h
    · cases h
    · next hskip =>
      split at h
      · next hclose =>
        cases h
        rw [hskip, hclose]
      · rw [if_pos rfl] at h
        split at h <;> cases h
  · intro h
    rw [h]
    rfl

theorem pushItem_ne_nil {value : Reader Json} {items items' : List Json}
    {bytes rest : List UInt8} (h : pushItem value items bytes = .ok (items', rest)) :
    items' ≠ [] := by
  unfold pushItem at h
  split at h
  · cases h
  · cases h
    exact List.cons_ne_nil _ _

theorem putField_ne_nil {value : Reader Json} {fields fields' : List (String × Json)}
    {key : String} {bytes rest : List UInt8}
    (h : putField value fields key bytes = .ok (fields', rest)) : fields' ≠ [] := by
  unfold putField at h
  split at h
  · cases h
  split at h
  · cases h
  · next v _ _ =>
    cases h
    intro hnil
    have hget := Fields.get?_put fields key key v
    rw [hnil, if_pos rfl] at hget
    cases hget

/-- What is read of a list is empty iff there is nothing but blanks in it. -/
theorem readList_eq_nil_iff {value : Reader Json} {bytes rest : List UInt8} :
    readList (pushItem value) [] bytes = .ok ([], rest) ↔
      ∃ inner, Blanks inner ∧ bytes = inner ++ ']'.toUInt8 :: rest := by
  rw [← nextItem_closed_iff]
  unfold readList
  constructor
  · intro h
    rcases readItems_cases (· ≠ []) (fun _ _ _ _ => pushItem_ne_nil) h with ⟨hclosed, -⟩ | hne
    · exact hclosed
    · exact absurd rfl hne
  · intro h
    simp only [readItems, h]

theorem readObject_eq_nil_iff {value : Reader Json} {bytes rest : List UInt8} :
    readObject (putField value) [] bytes = .ok ([], rest) ↔
      ∃ inner, Blanks inner ∧ bytes = inner ++ '\x7d'.toUInt8 :: rest := by
  rw [← nextKey_closed_iff]
  unfold readObject
  constructor
  · intro h
    rcases readFields_cases (· ≠ []) (fun _ _ _ _ _ => putField_ne_nil) h with ⟨hclosed, -⟩ | hne
    · exact hclosed
    · exact absurd rfl hne
  · intro h
    simp only [readFields, h]

/-! ## Values -/

theorem mapRead_eq_ok_iff {α β : Type} {f : α → β} {read : Reader α} {bytes rest : List UInt8}
    {value : β} :
    mapRead f read bytes = .ok (value, rest) ↔ ∃ a, read bytes = .ok (a, rest) ∧ f a = value := by
  unfold mapRead
  cases read bytes with
  | error e => simp
  | ok result =>
    obtain ⟨a, tail⟩ := result
    simp only [Except.ok.injEq, Prod.mk.injEq]
    constructor
    · rintro ⟨rfl, rfl⟩
      exact ⟨a, ⟨rfl, rfl⟩, rfl⟩
    · rintro ⟨_, ⟨rfl, rfl⟩, rfl⟩
      exact ⟨rfl, rfl⟩

theorem wordValue_eq_ok_iff {expected : List Char} {word value : Json} {bytes rest : List UInt8} :
    wordValue expected word bytes = .ok (value, rest) ↔
      bytes = expected.map Char.toUInt8 ++ rest ∧ word = value := by
  rw [← readWord_eq_ok_iff]
  unfold wordValue
  cases readWord expected bytes with
  | error e => simp
  | ok result => simp [and_comm]

open Rules (NoContent)

/-- A value without content that is read was spelled. The first byte tells which value it can be,
and most cannot have one without content. -/
theorem exists_spells_of_readValue {depth : Nat} {bytes rest : List UInt8} {value : Json}
    (hvalue : NoContent (some value)) (h : readValue (depth + 1) bytes = .ok (value, rest)) :
    ∃ blanks core, Blanks blanks ∧ Spells core value ∧ bytes = blanks ++ (core ++ rest) := by
  rw [readValue, readWith] at h
  split at h
  · cases h
  · next b tail hskip =>
    split at h
    · next hb =>
      obtain ⟨rfl, rfl⟩ := wordValue_eq_ok_iff.mp h
      rw [hb, skipBlanks_eq_cons_iff (by decide)] at hskip
      obtain ⟨blanks, hblanks, rfl⟩ := hskip
      exact ⟨blanks, _, hblanks, .null, rfl⟩
    split at h
    · obtain ⟨-, rfl⟩ := wordValue_eq_ok_iff.mp h
      cases hvalue
    split at h
    · obtain ⟨-, rfl⟩ := wordValue_eq_ok_iff.mp h
      cases hvalue
    split at h
    · obtain ⟨n, -, rfl⟩ := mapRead_eq_ok_iff.mp h
      cases hvalue
    split at h
    · obtain ⟨n, -, rfl⟩ := mapRead_eq_ok_iff.mp h
      cases hvalue
    split at h
    · next hb =>
      obtain ⟨s, hread, rfl⟩ := mapRead_eq_ok_iff.mp h
      cases hvalue
      rw [hb, readString_eq_empty_iff.mp hread, skipBlanks_eq_cons_iff (by decide)] at hskip
      obtain ⟨blanks, hblanks, rfl⟩ := hskip
      exact ⟨blanks, _, hblanks, .string, rfl⟩
    split at h
    · next hb =>
      obtain ⟨items, hread, rfl⟩ := mapRead_eq_ok_iff.mp h
      generalize hitems : items.reverse = reversed at hvalue
      cases hvalue
      rw [List.reverse_eq_nil_iff.mp hitems] at hread
      obtain ⟨inner, hinner, rfl⟩ := readList_eq_nil_iff.mp hread
      rw [hb, skipBlanks_eq_cons_iff (by decide)] at hskip
      obtain ⟨blanks, hblanks, rfl⟩ := hskip
      exact ⟨blanks, _, hblanks, .array hinner, by simp⟩
    split at h
    · next hb =>
      obtain ⟨fields, hread, rfl⟩ := mapRead_eq_ok_iff.mp h
      cases hvalue
      obtain ⟨inner, hinner, rfl⟩ := readObject_eq_nil_iff.mp hread
      rw [hb, skipBlanks_eq_cons_iff (by decide)] at hskip
      obtain ⟨blanks, hblanks, rfl⟩ := hskip
      exact ⟨blanks, _, hblanks, .object hinner, by simp⟩
    · cases h

theorem readValue_of_spells {depth : Nat} {blanks core rest : List UInt8} {value : Json}
    (hblanks : Blanks blanks) (h : Spells core value) :
    readValue (depth + 1) (blanks ++ (core ++ rest)) = .ok (value, rest) := by
  rw [readValue, readWith, skipBlanks_append hblanks]
  cases h with
  | null => rfl
  | string => rfl
  | array hinner =>
    refine mapRead_eq_ok_iff.mpr ⟨[], readList_eq_nil_iff.mpr ⟨_, hinner, ?_⟩, rfl⟩
    simp
  | object hinner =>
    refine mapRead_eq_ok_iff.mpr ⟨[], readObject_eq_nil_iff.mpr ⟨_, hinner, ?_⟩, rfl⟩
    simp

/-! ## Whole texts -/

theorem endOfText_eq_ok_iff {bytes : List UInt8} : endOfText bytes = .ok () ↔ Blanks bytes := by
  rw [← skipBlanks_eq_nil_iff]
  unfold endOfText
  cases skipBlanks bytes <;> simp

theorem readAll_eq_ok_iff {α : Type} {read : Reader α} {bytes : List UInt8} {a : α} :
    readAll read bytes = .ok a ↔ ∃ rest, read bytes = .ok (a, rest) ∧ Blanks rest := by
  simp only [← endOfText_eq_ok_iff]
  unfold readAll
  constructor
  · intro h
    split at h
    · cases h
    · next rest hread =>
      split at h
      · cases h
      · next hend =>
        obtain rfl := Except.ok.inj h
        exact ⟨rest, hread, hend⟩
  · rintro ⟨rest, hread, hend⟩
    simp only [hread, hend]

/-- The texts of a value without content. -/
theorem parseBytes_noContent_iff {bytes : List UInt8} {value : Json}
    (hvalue : NoContent (some value)) :
    parseBytes bytes = .ok value ↔ ∃ before core after, Blanks before ∧ Spells core value ∧
      Blanks after ∧ bytes = before ++ (core ++ after) := by
  unfold parseBytes
  rw [readAll_eq_ok_iff]
  constructor
  · rintro ⟨after, hread, hafter⟩
    obtain ⟨before, core, hbefore, hcore, rfl⟩ := exists_spells_of_readValue hvalue hread
    exact ⟨before, core, after, hbefore, hcore, hafter, rfl⟩
  · rintro ⟨before, core, after, hbefore, hcore, hafter, rfl⟩
    exact ⟨after, readValue_of_spells hbefore hcore, hafter⟩

end Gatehouse.Json
