import Gatehouse.Proofs.Server.Precedence
/-!
Ports that are given as texts.

The text of a port is an unsigned number with blanks around it. It may have a plus sign and any
number of zeros in front, so its length does not tell whether it is in range; only the number does:

    the port of the text of n  =  n                        if n is at most 65535
                                  refused, with the text   otherwise           (withPort_given)

No number comes back to a port by counting on from 0, and what is quoted is the text as it was
given, blanks included.
-/

namespace Gatehouse

namespace Ascii

/-! ## Numbers as texts -/

/-- The decimal digits of a number, with zeros in front and perhaps a plus sign. -/
def decimal (plus : Bool) (zeros n : Nat) : List Char :=
  let digits := List.replicate zeros '0' ++ Nat.toDigits 10 n
  if plus then '+' :: digits else digits

/-- Zeros in front do not count. -/
theorem natOfDigits_zeros (zeros : Nat) (ds : List Char) :
    natOfDigits (List.replicate zeros '0' ++ ds) = natOfDigits ds := by
  induction zeros with
  | zero => rfl
  | succ zeros ih =>
    rw [List.replicate_succ, List.cons_append]
    exact ih

theorem natOfDigits_toDigits (n : Nat) : natOfDigits (Nat.toDigits 10 n) = n :=
  Nat.ofDigitChars_toDigits (by decide) (by decide)

/-- A number is denoted by its digits, however many zeros stand in front. -/
theorem denotes_decimal (plus : Bool) (zeros n : Nat) : Denotes (decimal plus zeros n) n := by
  refine ⟨List.replicate zeros '0' ++ Nat.toDigits 10 n, ?_, ?_, fun c hc => ?_, ?_⟩
  · cases plus with
    | false => exact .inl rfl
    | true => exact .inr rfl
  · exact List.append_ne_nil_of_right_ne_nil _ Nat.toDigits_ne_nil
  · rcases List.mem_append.mp hc with hc | hc
    · rw [List.eq_of_mem_replicate hc]
      decide
    · exact Nat.isDigit_of_mem_toDigits (by decide) (by decide) hc
  · rw [natOfDigits_zeros, natOfDigits_toDigits]

/-- Characters denote one number at most. -/
theorem Denotes.unique {cs : List Char} {n m : Nat} (hn : Denotes cs n) (hm : Denotes cs m) :
    n = m := by
  -- with a limit that both keep, they are what is read
  have hread := unsigned?_eq_some_iff.mpr ⟨hn, Nat.le_max_left n m⟩
  have hread' := unsigned?_eq_some_iff.mpr ⟨hm, Nat.le_max_right n m⟩
  exact Option.some.inj (hread.symm.trans hread')

end Ascii

namespace Server

/-- A number names a port iff it is in range, and then that port. -/
theorem namesPort_decimal_iff {front back : List Char} (hfront : ∀ c ∈ front, Text.isBlank c = true)
    (hback : ∀ c ∈ back, Text.isBlank c = true) (plus : Bool) (zeros n port : Nat) :
    NamesPort (String.ofList (front ++ (Ascii.decimal plus zeros n ++ back))) port ↔
      port = n ∧ n ≤ maxPort := by
  have hdecimal := Ascii.denotes_decimal plus zeros n
  rw [← Config.portOf?_eq_some_iff]
  unfold Config.portOf?
  rw [String.toList_ofList, Text.trim_append hfront hback hdecimal.not_isBlank hdecimal.ne_nil,
    Ascii.unsigned?_eq_some_iff]
  constructor
  · rintro ⟨hport, hle⟩
    obtain rfl := hport.unique hdecimal
    exact ⟨rfl, hle⟩
  · rintro ⟨rfl, hle⟩
    exact ⟨hdecimal, hle⟩

namespace Config

variable {config config' : Config} {text : String}

theorem withPort_some_eq_ok_iff :
    config.withPort (some text) = .ok config' ↔
      ∃ n, NamesPort text n ∧ config' = { config with port := n } := by
  rw [withPort_eq_ok_iff]
  constructor
  · rintro ⟨given, hgiven, rfl⟩
    cases hgiven with
    | @set _ n hn => exact ⟨n, hn, rfl⟩
  · rintro ⟨n, hn, rfl⟩
    exact ⟨some n, .set hn, rfl⟩

theorem withPort_some_eq_error_iff {e : Error} :
    config.withPort (some text) = .error e ↔
      (∀ n, ¬NamesPort text n) ∧ e = .invalidPort text := by
  rw [withPort_eq_error_iff]
  constructor
  · rintro ⟨_, ⟨⟩, hnone, rfl⟩
    exact ⟨hnone, rfl⟩
  · rintro ⟨hnone, rfl⟩
    exact ⟨text, rfl, hnone, rfl⟩

/-! ## The theorem -/

/-- **A port is given by a number in range.** Without a text the configuration is as it was. A text
of an unsigned number that is a port, with blanks around it, replaces the port and nothing else; any
other text is refused and quoted as it is. So the decimal text of a number is refused iff the number
is over 65535, with whatever zeros, plus sign and blanks it is written. -/
theorem withPort_given (config : Config) :
    config.withPort none = .ok config ∧
    (∀ text : String,
      (∀ config', config.withPort (some text) = .ok config' ↔
        ∃ n, NamesPort text n ∧ config' = { config with port := n }) ∧
      (∀ e, config.withPort (some text) = .error e ↔
        (∀ n, ¬NamesPort text n) ∧ e = .invalidPort text) ∧
      (Error.invalidPort text).message = "invalid PORT: '" ++ text ++ "' is not a port number") ∧
    ∀ front back plus zeros n, (∀ c ∈ front, Text.isBlank c = true) →
      (∀ c ∈ back, Text.isBlank c = true) →
      let text := String.ofList (front ++ (Ascii.decimal plus zeros n ++ back))
      config.withPort (some text) =
        if n ≤ 65535 then .ok { config with port := n } else .error (.invalidPort text) := by
  refine ⟨rfl, fun text => ⟨fun _ => withPort_some_eq_ok_iff, fun _ => withPort_some_eq_error_iff,
    rfl⟩, ?_⟩
  intro front back plus zeros n hfront hback text
  have hnames := namesPort_decimal_iff hfront hback plus zeros n
  by_cases hle : n ≤ 65535
  · rw [if_pos hle]
    exact withPort_some_eq_ok_iff.mpr ⟨n, (hnames n).mpr ⟨rfl, hle⟩, rfl⟩
  · rw [if_neg hle]
    exact withPort_some_eq_error_iff.mpr ⟨fun port hport => hle ((hnames port).mp hport).2, rfl⟩

/-- A port may have zeros, a plus sign and blanks; 65616 is 80 and 2^16 more. -/
example : portOf? "\u3000+00080\t" = some 80 ∧ portOf? "65616" = none ∧ portOf? "- 80" = none ∧
    portOf? "-0" = none ∧ portOf? "8 0" = none := by
  decide

end Config

end Server

end Gatehouse
