import DashboardRefresh.Config.Dashboard
import Mathlib.Data.List.Induction
import Mathlib.Data.Nat.Digits.Defs

/-!
# Durations in texts

A duration is written as a decimal number and the letter of a unit. The pattern takes the decimal
digits of every script, and a number only those of ASCII, below 2^64, so that a text can be refused
for its form, for its number or for the seconds that it stands for. The main statement says which
texts are read as which duration and which are refused with which message; it leaves no text out.
-/

namespace DashboardRefresh

/-- A unit in which durations are written. -/
inductive TimeUnit where
  | second
  | minute
  | hour
  | day

namespace TimeUnit

def letter : TimeUnit → Char
  | second => 's'
  | minute => 'm'
  | hour => 'h'
  | day => 'd'

def seconds : TimeUnit → Nat
  | second => 1
  | minute => 60
  | hour => 3600
  | day => 86400

@[simp] theorem unitSeconds?_letter (unit : TimeUnit) :
    Duration.unitSeconds? unit.letter = some unit.seconds := by
  cases unit <;> rfl

theorem exists_letter_eq {c : Char} {n : Nat} (h : Duration.unitSeconds? c = some n) :
    ∃ unit : TimeUnit, c = unit.letter := by
  unfold Duration.unitSeconds? at h
  split at h
  · exact ⟨second, rfl⟩
  · exact ⟨minute, rfl⟩
  · exact ⟨hour, rfl⟩
  · exact ⟨day, rfl⟩
  · cases h

theorem le_mul_seconds (n : Nat) (unit : TimeUnit) : n ≤ n * unit.seconds := by
  apply Nat.le_mul_of_pos_right
  cases unit <;> decide

end TimeUnit

/-! ## Numbers -/

namespace Text

/-- The number that ASCII digits write in base ten, by their places from the last one on. -/
def placeValue (digits : List Char) : Nat := Nat.ofDigits 10 (digits.reverse.map digitValue)

theorem decimalValue_concat (digits : List Char) (c : Char) :
    decimalValue (digits ++ [c]) = 10 * decimalValue digits + digitValue c := by
  unfold decimalValue
  rw [List.foldl_append]
  rfl

/-- Reading a number from the left on gives its value by places. -/
theorem decimalValue_eq_placeValue (digits : List Char) :
    decimalValue digits = placeValue digits := by
  induction digits using List.reverseRecOn with
  | nil => rfl
  | append_singleton digits c ih =>
    calc
      decimalValue (digits ++ [c]) = 10 * decimalValue digits + digitValue c :=
        decimalValue_concat digits c
      _ = digitValue c + 10 * placeValue digits := by rw [ih, add_comm]
      _ = placeValue (digits ++ [c]) := by
        unfold placeValue
        rw [List.reverse_append, List.reverse_singleton, List.singleton_append, List.map_cons,
          Nat.ofDigits_cons]

theorem placeValue_toDigits (n : Nat) : placeValue (Nat.toDigits 10 n) = n :=
  calc
    placeValue (Nat.toDigits 10 n) = decimalValue (Nat.toDigits 10 n) :=
      (decimalValue_eq_placeValue _).symm
    _ = Nat.ofDigitChars 10 (Nat.toDigits 10 n) 0 := rfl
    _ = n := Nat.ofDigitChars_toDigits (by decide) (by decide)

/-- The ASCII digits are among the decimal digits of all scripts. -/
theorem isDecimalDigit_of_isDigit {c : Char} (h : c.isDigit) : isDecimalDigit c := by
  have hrange : (0x30 ≤ c.toNat && c.toNat ≤ 0x39) = true := by
    simpa [Char.isDigit, UInt32.le_iff_toNat_le] using h
  unfold isDecimalDigit inRanges
  rw [List.any_eq_true]
  exact ⟨(0x30, 0x39), List.mem_cons_self, hrange⟩

end Text

namespace Duration

variable {text : String} {digits : List Char} {unit : TimeUnit} {n : Nat}

/-! ## The stages of reading -/

/-- The text consists of digits of a class, at least one, and the letter of a unit. -/
structure IsAmount (isDigit : Char → Bool) (text : String) (digits : List Char)
    (unit : TimeUnit) : Prop where
  text_eq : text.toList = digits ++ [unit.letter]
  digits_ne_nil : digits ≠ []
  isDigit_of_mem : ∀ c ∈ digits, isDigit c

theorem IsAmount.isDecimal (h : IsAmount Char.isDigit text digits unit) :
    IsAmount Text.isDecimalDigit text digits unit :=
  ⟨h.text_eq, h.digits_ne_nil, fun c hc => Text.isDecimalDigit_of_isDigit (h.isDigit_of_mem c hc)⟩

theorem IsAmount.shape?_eq (h : IsAmount Text.isDecimalDigit text digits unit) :
    shape? text.toList = some (digits, unit.seconds) := by
  have hlast : text.toList.getLast?.bind unitSeconds? = some unit.seconds := by
    rw [h.text_eq, List.getLast?_concat]
    exact TimeUnit.unitSeconds?_letter unit
  have hdigits : text.toList.dropLast = digits := by rw [h.text_eq, List.dropLast_concat]
  unfold shape?
  rw [hlast, hdigits]
  exact if_pos ⟨h.digits_ne_nil, List.all_eq_true.2 h.isDigit_of_mem⟩

theorem exists_isAmount_of_shape? (h : shape? text.toList = some (digits, n)) :
    ∃ unit, IsAmount Text.isDecimalDigit text digits unit := by
  unfold shape? at h
  split at h
  · rename_i seconds hunit
    split at h
    · rename_i hdigits
      obtain ⟨c, hlast, hc⟩ := Option.bind_eq_some_iff.1 hunit
      obtain ⟨front, htext⟩ := List.getLast?_eq_some_iff.1 hlast
      obtain ⟨unit, rfl⟩ := TimeUnit.exists_letter_eq hc
      have hfront : front = digits := by
        rw [htext, List.dropLast_concat] at h
        exact (Prod.mk.inj (Option.some.inj h)).1
      rw [htext, List.dropLast_concat, hfront] at hdigits
      exact ⟨unit, hfront ▸ htext, hdigits.1, List.all_eq_true.1 hdigits.2⟩
    · cases h
  · cases h

theorem shape?_eq_none (h : ∀ digits unit, ¬ IsAmount Text.isDecimalDigit text digits unit) :
    shape? text.toList = none := by
  apply Option.eq_none_iff_forall_ne_some.2
  rintro ⟨digits, n⟩ hsome
  obtain ⟨unit, hamount⟩ := exists_isAmount_of_shape? hsome
  exact h digits unit hamount

/-- The digits are those of a number: all of ASCII, and of a value below 2^64. -/
def IsNumber (digits : List Char) : Prop :=
  (∀ c ∈ digits, c.isDigit) ∧ Text.placeValue digits < 2 ^ 64

theorem IsNumber.number?_eq (h : IsNumber digits) :
    number? digits = some (Text.placeValue digits) := by
  have hvalue := Text.decimalValue_eq_placeValue digits
  unfold number?
  rw [if_pos ⟨List.all_eq_true.2 h.1, hvalue ▸ h.2⟩, hvalue]

theorem number?_eq_none (h : ¬ IsNumber digits) : number? digits = none := by
  apply if_neg
  rintro ⟨hascii, hlt⟩
  rw [Text.decimalValue_eq_placeValue] at hlt
  exact h ⟨List.all_eq_true.1 hascii, hlt⟩

theorem not_isNumber_iff :
    ¬ IsNumber digits ↔ (∃ c ∈ digits, c.isDigit = false) ∨ 2 ^ 64 ≤ Text.placeValue digits := by
  unfold IsNumber
  rw [not_and_or, not_lt]
  apply or_congr_left
  simp

theorem ofSeconds?_eq_some {d : Duration} (hseconds : d.seconds = n) (hnanos : d.nanos = 0) :
    ofSeconds? n = some d := by
  subst hseconds
  unfold ofSeconds?
  rw [dif_pos d.seconds_lt]
  congr 1
  ext
  · rfl
  · exact hnanos.symm

theorem ofSeconds?_eq_none (h : 2 ^ 64 ≤ n) : ofSeconds? n = none :=
  dif_neg (not_lt.2 h)

/-! ## What a text says -/

/-- What a text says: the duration that its number and its unit make up, or what is wrong with it,
the form, the number or the seconds. -/
inductive Reading (text : String) : Except ConfigError Duration → Prop
  | duration {digits : List Char} {unit : TimeUnit} {d : Duration}
      (hamount : IsAmount Char.isDigit text digits unit)
      (hseconds : d.seconds = Text.placeValue digits * unit.seconds) (hnanos : d.nanos = 0) :
      Reading text (.ok d)
  | tooLarge {digits : List Char} {unit : TimeUnit}
      (hamount : IsAmount Char.isDigit text digits unit) (hnumber : Text.placeValue digits < 2 ^ 64)
      (hseconds : 2 ^ 64 ≤ Text.placeValue digits * unit.seconds) :
      Reading text (.error (.invalidValue "duration" ("duration `" ++ text ++ "` is too large")))
  | badNumber {digits : List Char} {unit : TimeUnit}
      (hamount : IsAmount Text.isDecimalDigit text digits unit)
      (hnumber : (∃ c ∈ digits, c.isDigit = false) ∨ 2 ^ 64 ≤ Text.placeValue digits) :
      Reading text
        (.error (.invalidValue "duration" ("invalid duration value: " ++ String.ofList digits)))
  | malformed (hform : ∀ digits unit, ¬ IsAmount Text.isDecimalDigit text digits unit) :
      Reading text (.error
        (.invalidValue "duration" ("invalid duration format for value `" ++ text ++ "`")))

/-- The text is read as it says. -/
theorem Reading.mapError_parse {result : Except ConfigError Duration} (h : Reading text result) :
    (parse text).mapError ConfigError.ofDuration = result := by
  unfold parse
  cases h with
  | @duration digits unit d hamount hseconds hnanos =>
    -- The number is not larger than the seconds, so that it is below 2^64 if they are.
    have hnumber : IsNumber digits :=
      ⟨hamount.isDigit_of_mem, calc
        Text.placeValue digits ≤ Text.placeValue digits * unit.seconds :=
          TimeUnit.le_mul_seconds _ unit
        _ = d.seconds := hseconds.symm
        _ < 2 ^ 64 := d.seconds_lt⟩
    rw [hamount.isDecimal.shape?_eq]
    dsimp only
    rw [hnumber.number?_eq]
    dsimp only
    rw [ofSeconds?_eq_some hseconds hnanos]
    rfl
  | tooLarge hamount hnumber hseconds =>
    rw [hamount.isDecimal.shape?_eq]
    dsimp only
    rw [IsNumber.number?_eq ⟨hamount.isDigit_of_mem, hnumber⟩]
    dsimp only
    rw [ofSeconds?_eq_none hseconds]
    rfl
  | badNumber hamount hnumber =>
    rw [hamount.shape?_eq]
    dsimp only
    rw [number?_eq_none (not_isNumber_iff.2 hnumber)]
    rfl
  | malformed hform =>
    rw [shape?_eq_none hform]
    rfl

/-- Every text says something. -/
theorem exists_reading (text : String) : ∃ result, Reading text result := by
  by_cases hform : ∃ digits unit, IsAmount Text.isDecimalDigit text digits unit
  · obtain ⟨digits, unit, hamount⟩ := hform
    by_cases hnumber : IsNumber digits
    · have hascii : IsAmount Char.isDigit text digits unit :=
        ⟨hamount.text_eq, hamount.digits_ne_nil, hnumber.1⟩
      by_cases hseconds : Text.placeValue digits * unit.seconds < 2 ^ 64
      · exact ⟨.ok ⟨_, 0, hseconds, by decide⟩, .duration hascii rfl rfl⟩
      · exact ⟨_, .tooLarge hascii hnumber.2 (not_lt.1 hseconds)⟩
    · exact ⟨_, .badNumber hamount (not_isNumber_iff.1 hnumber)⟩
  · exact ⟨_, .malformed fun digits unit hamount => hform ⟨digits, unit, hamount⟩⟩

/-- A number in front of the letter of seconds is read as that many seconds. -/
theorem reading_toString (n : UInt64) :
    Reading (toString n.toNat ++ "s") (.ok (ofSeconds n)) := by
  have hdigits : (toString n.toNat).toList = Nat.toDigits 10 n.toNat := by
    rw [Nat.toString_eq_repr, Nat.toList_repr]
  have hamount :
      IsAmount Char.isDigit (toString n.toNat ++ "s") (Nat.toDigits 10 n.toNat) .second :=
    { text_eq := by
        rw [String.toList_append, hdigits]
        rfl
      digits_ne_nil := Nat.toDigits_ne_nil
      isDigit_of_mem := fun _ hc => Nat.isDigit_of_mem_toDigits (by decide) (by decide) hc }
  apply Reading.duration hamount
  · rw [Text.placeValue_toDigits]
    exact (mul_one _).symm
  · rfl

/-- Every text is read as it says: as the seconds of its number and unit, if it consists of ASCII
digits and the letter of a unit and they are below 2^64, and else as the error of its form, of its
number or of its seconds. In particular every word is read back from its decimal digits. -/
theorem parse_eq_iff_reading (text : String) :
    (∀ result, (parse text).mapError ConfigError.ofDuration = result ↔ Reading text result) ∧
      ∀ n : UInt64, parse (toString n.toNat ++ "s") = .ok (ofSeconds n) := by
  constructor
  · intro result
    constructor
    · intro hparse
      obtain ⟨result', hreading⟩ := exists_reading text
      have heq : result' = result := hreading.mapError_parse.symm.trans hparse
      exact heq ▸ hreading
    · exact Reading.mapError_parse
  · intro n
    have hparse := (reading_toString n).mapError_parse
    cases h : parse (toString n.toNat ++ "s") with
    | ok d =>
      rw [h] at hparse
      exact congrArg Except.ok (Except.ok.inj hparse)
    | error e =>
      rw [h] at hparse
      cases hparse

example : parse "٣m" = .error (.badNumber "٣") := by decide
example : parse "307445734561825861m" = .error (.tooLarge "307445734561825861m") := by decide

end Duration

end DashboardRefresh
